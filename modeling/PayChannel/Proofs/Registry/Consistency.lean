import Mathlib
import PayChannel.Proofs.Registry.Conservation
import PayChannel.Proofs.Registry.Generations

/-!
# What the tables of a registry have in common

No operation rewrites all the tables of a registry, so what one of them says about another has to be
kept by each of the helpers that change a part.  The invariant as a whole:

* `Filed`, `Aligned`    a channel is under its own ends and has the nonce of its pair;
* `Dated`    it runs between two accounts, from a height that was reached to a later one;
* `Marked`    only a pair with an open channel has a session mark, and the mark is not zero;
* `Tallied`    payments and payers are counted for the same receivers;
* `Consistent`, `consistent_run`    all of them, and a bounded log, after any run;
* `nextNonce_after_le`    the nonce of a pair never goes down.
-/

set_option linter.unusedSectionVars false

namespace PayChannel

theorem BalanceSheet.height_le_pass (p : Passage) (s : BalanceSheet) :
    s.height ≤ (s.pass p).height := by
  have hmax := Word.val_le_max s.height
  cases p with
  | advance blocks =>
    show s.height.val ≤ (s.height.satAdd blocks).val
    rw [Word.val_satAdd]
    exact Nat.le_min.mpr ⟨Nat.le_add_right _ _, hmax⟩
  | advanceTo height =>
    show s.height.val ≤ (s.height.maxOf height).val
    rw [Word.val_maxOf]
    exact Nat.le_max_left _ _

namespace Registry

variable {L β : Type} [Ledger L]

/-! ## Heights -/

theorem lt_of_expiry {now duration expiresAt : Height}
    (h : expiry? now duration = some expiresAt) : now < expiresAt := by
  unfold expiry? at h
  split at h
  · cases h
  · rename_i hpos
    have hsum := (Word.checkedAdd?_eq_some_iff _ _ _).mp h
    show now.val < expiresAt.val
    omega

section
variable [SteadyLedger L]

theorem height_le_closeAll (r : Registry L) (now : Height) (keys : List Ends) :
    r.height ≤ (r.closeAll now keys).2.height := by
  apply closeAll_keeps (P := fun q => r.height ≤ q.height)
  · intro q ends c hq hc
    obtain ⟨-, hledger, -⟩ := close_of_get? hc now
    have hcredit := SteadyLedger.height_credit q.ledger c.sender c.balance
    rw [← hledger] at hcredit
    exact Nat.le_trans hq hcredit
  · exact Nat.le_refl _

theorem height_le_settleLock {l l' : L} {sender : Account} {amount refund : Amount}
    (h : settleLock l sender amount refund = (true, l')) : Ledger.height l ≤ Ledger.height l' := by
  obtain ⟨-, hpaid⟩ | ⟨-, -, rfl⟩ := settleLock_cases h
  · have hdebit := SteadyLedger.height_debit l sender (amount.satSub refund)
    rw [hpaid] at hdebit
    exact hdebit
  · exact SteadyLedger.height_credit l sender _

theorem height_le_perform (S : SignatureScheme) (r : Registry L) (operation : Operation) :
    r.height ≤ (r.perform S operation).2.height := by
  obtain ⟨answer, r', hp, hout⟩ := exists_outcome S r operation
  rw [hp]
  cases hout with
  | refused operation refusal => exact Nat.le_refl _
  | refusedDebit operation refusal account x ledger h =>
    have hdebit := SteadyLedger.height_debit r.ledger account x
    rw [h] at hdebit
    exact hdebit
  | opened sender receiver amount duration channel r' h => exact height_le_settleLock h.settled
  | funded sender receiver amount c channel r' h =>
    have hdebit := SteadyLedger.height_debit r.ledger sender amount
    rw [h.debited] at hdebit
    exact hdebit
  | redeemed sender receiver sessionId amount signature c receipt r' h =>
    have hcredit := SteadyLedger.height_credit r.ledger receiver amount
    rw [← h.ledger] at hcredit
    exact hcredit
  | closed caller sender receiver party => exact height_le_closeAll r _ _
  | closedExpired caller => exact height_le_closeAll r _ _
  | swept => exact height_le_closeAll r _ _
  | tookEvents => exact Nat.le_refl _
  | drained => exact Nat.le_refl _

end

/-! ## Where channels come from -/

theorem channel_of_closeAll {r : Registry L} {now : Height} {keys : List Ends} {ends : Ends}
    {c : Channel} (h : (r.closeAll now keys).2.channels.get? ends = some c) :
    r.channels.get? ends = some c := by
  have hkeep : ∀ e d, (r.closeAll now keys).2.channels.get? e = some d →
      r.channels.get? e = some d := by
    apply closeAll_keeps
      (P := fun q => ∀ e d, q.channels.get? e = some d → r.channels.get? e = some d)
    · intro q key d hq hd e d' h'
      obtain ⟨-, -, hret⟩ := close_of_get? hd now
      rw [hret.channels, Table.get?_erase] at h'
      by_cases he : e = key
      · rw [if_pos he] at h'
        cases h'
      · rw [if_neg he] at h'
        exact hq e d' h'
    · exact fun e d hd => hd
  exact hkeep ends c h

/-- a channel that is open after an operation was open before, but for its balance, or it is the one
that has just been opened -/
theorem channel_origin (S : SignatureScheme) (r : Registry L) (operation : Operation) {ends : Ends}
    {c' : Channel} (h : (r.perform S operation).2.channels.get? ends = some c') :
    (∃ c, r.channels.get? ends = some c ∧ c' = { c with balance := c'.balance }) ∨
    ∃ sender receiver amount duration,
      Opened r sender receiver amount duration c' (r.perform S operation).2 := by
  obtain ⟨answer, r', hp, hout⟩ := exists_outcome S r operation
  rw [hp] at h ⊢
  dsimp only at h ⊢
  cases hout with
  | refused operation refusal => exact .inl ⟨c', h, rfl⟩
  | refusedDebit operation refusal account x ledger hd => exact .inl ⟨c', h, rfl⟩
  | opened sender receiver amount duration channel r' ho =>
    rw [ho.channels, Table.get?_insert] at h
    by_cases he : ends = ⟨sender, receiver⟩
    · rw [if_pos he] at h
      cases h
      exact .inr ⟨sender, receiver, amount, duration, ho⟩
    · rw [if_neg he] at h
      exact .inl ⟨c', h, rfl⟩
  | funded sender receiver amount c channel r' hf =>
    rw [hf.channels, Table.get?_insert] at h
    by_cases he : ends = ⟨sender, receiver⟩
    · rw [if_pos he] at h
      cases h
      exact .inl ⟨c, he ▸ hf.found, hf.channel_eq⟩
    · rw [if_neg he] at h
      exact .inl ⟨c', h, rfl⟩
  | redeemed sender receiver sessionId amount signature c receipt r' hr =>
    rw [hr.channels, Table.get?_insert] at h
    by_cases he : ends = ⟨sender, receiver⟩
    · rw [if_pos he] at h
      cases h
      exact .inl ⟨c, he ▸ hr.found, rfl⟩
    · rw [if_neg he] at h
      exact .inl ⟨c', h, rfl⟩
  | closed caller sender receiver party => exact .inl ⟨c', channel_of_closeAll h, rfl⟩
  | closedExpired caller => exact .inl ⟨c', channel_of_closeAll h, rfl⟩
  | swept => exact .inl ⟨c', channel_of_closeAll h, rfl⟩
  | tookEvents => exact .inl ⟨c', h, rfl⟩
  | drained => exact .inl ⟨c', h, rfl⟩

/-- a channel runs between two accounts, from a height that has been reached to a later one -/
def Dated (r : Registry L) : Prop :=
  ∀ ends c, r.channels.get? ends = some c →
    c.sender ≠ c.receiver ∧ c.openedAt < c.expiresAt ∧ c.openedAt ≤ r.height

theorem dated_perform [SteadyLedger L] (S : SignatureScheme) {r : Registry L} (h : r.Dated)
    (operation : Operation) : (r.perform S operation).2.Dated := by
  intro ends c' hc'
  have hheight := height_le_perform S r operation
  rcases channel_origin S r operation hc' with ⟨c, hc, hsame⟩ | ⟨sender, receiver, _, _, ho⟩
  · obtain ⟨hne, hlt, hle⟩ := h ends c hc
    rw [hsame]
    exact ⟨hne, hlt, Nat.le_trans hle hheight⟩
  · have hsender : c'.sender = sender := congrArg Ends.sender ho.ends
    have hreceiver : c'.receiver = receiver := congrArg Ends.receiver ho.ends
    refine ⟨?_, ?_, ?_⟩
    · rw [hsender, hreceiver]
      exact ho.ends_ne
    · rw [ho.openedAt]
      exact lt_of_expiry ho.expiry
    · rw [ho.openedAt]
      exact hheight

/-! ## Session marks -/

/-- only a pair with an open channel has a session mark, and the mark is not zero -/
def Marked (r : Registry L) : Prop :=
  ∀ ends s, r.sessions.get? ends = some s → (∃ c, r.channels.get? ends = some c) ∧ 1 ≤ s.val

theorem sessions_retire {r : Registry L} {ends : Ends} {c : Channel}
    (h : r.channels.get? ends = some c) (now : Height) :
    (r.retire ends now).2.sessions = r.sessions.erase ends := by
  simp only [retire, h, sessions_emit, sessions_unlock]

theorem sessions_close {r : Registry L} {ends : Ends} {c : Channel}
    (h : r.channels.get? ends = some c) (now : Height) :
    (r.close ends now).2.sessions = r.sessions.erase ends := by
  obtain ⟨hclosing, -⟩ := retire_of_get? h now
  have hpair : r.retire ends now = (some (closingOf c now), (r.retire ends now).2) :=
    Prod.ext hclosing rfl
  rw [close, hpair]
  exact sessions_retire h now

theorem sessions_openChannel (r : Registry L) (sender receiver : Account) (amount : Amount)
    (duration : Height) :
    (r.openChannel sender receiver amount duration).2.sessions = r.sessions ∨
      (r.openChannel sender receiver amount duration).2.sessions
        = (r.cleared ⟨sender, receiver⟩).sessions := by
  unfold openChannel
  split
  · exact .inl rfl
  dsimp only
  split
  · exact .inl rfl
  split
  · exact .inl rfl
  split
  · exact .inl rfl
  split
  · exact .inl rfl
  · right
    simp only [retire_withLedger]
    rfl

theorem sessions_addBalance (r : Registry L) (sender receiver : Account) (amount : Amount) :
    (r.addBalance sender receiver amount).2.sessions = r.sessions := by
  unfold addBalance
  dsimp only
  split
  · rfl
  split
  · rfl
  split
  · rfl
  split
  · rfl
  · rfl

theorem sessions_claim (S : SignatureScheme) (r : Registry L) (sender receiver : Account)
    (sessionId : SessionId) (amount : Amount) (signature : Bytes) :
    (r.claim S sender receiver sessionId amount signature).2.sessions = r.sessions ∨
      (r.claim S sender receiver sessionId amount signature).2.sessions
        = r.sessions.insert ⟨sender, receiver⟩ sessionId := by
  unfold claim
  dsimp only
  split
  · exact .inl rfl
  split
  · exact .inl rfl
  split
  · exact .inl rfl
  split
  · exact .inl rfl
  split
  · exact .inl rfl
  · right
    simp only [sessions_emit, sessions_recordPayment, sessions_unlock]

theorem marked_of_sessions {r r' : Registry L} (h : r.Marked)
    (hsessions : ∀ e s, r'.sessions.get? e = some s → r.sessions.get? e = some s)
    (hchannels : ∀ e c, r.channels.get? e = some c → ∃ c', r'.channels.get? e = some c') :
    r'.Marked := by
  intro e s hs
  obtain ⟨⟨c, hc⟩, hpos⟩ := h e s (hsessions e s hs)
  exact ⟨hchannels e c hc, hpos⟩

theorem exists_get?_insert {t t' : Table Ends Channel} {ends : Ends} {d : Channel}
    (h : t' = t.insert ends d) (e : Ends) (c : Channel) (hc : t.get? e = some c) :
    ∃ c', t'.get? e = some c' := by
  rw [h, Table.get?_insert]
  by_cases he : e = ends
  · exact ⟨d, if_pos he⟩
  · exact ⟨c, (if_neg he).trans hc⟩

theorem get?_sessions_cleared {r : Registry L} {ends e : Ends} {s : SessionId}
    (h : (r.cleared ends).sessions.get? e = some s) : r.sessions.get? e = some s := by
  cases hc : r.channels.get? ends with
  | none =>
    rw [cleared_of_none hc] at h
    exact h
  | some c =>
    rw [cleared, sessions_retire hc, Table.get?_erase] at h
    by_cases he : e = ends
    · rw [if_pos he] at h
      cases h
    · rw [if_neg he] at h
      exact h

theorem marked_close {r : Registry L} (h : r.Marked) {ends : Ends} {c : Channel}
    (hc : r.channels.get? ends = some c) (now : Height) : (r.close ends now).2.Marked := by
  obtain ⟨-, -, hret⟩ := close_of_get? hc now
  intro e s hs
  rw [sessions_close hc, Table.get?_erase] at hs
  by_cases he : e = ends
  · rw [if_pos he] at hs
    cases hs
  · rw [if_neg he] at hs
    rw [hret.channels, Table.get?_erase_of_ne _ he]
    exact h e s hs

theorem marked_closeAll {r : Registry L} (h : r.Marked) (now : Height) (keys : List Ends) :
    (r.closeAll now keys).2.Marked :=
  closeAll_keeps (P := Marked) (fun _ _ _ hq hc => marked_close hq hc now) keys h

theorem marked_opened {r r' : Registry L} (h : r.Marked) {sender receiver : Account}
    {amount : Amount} {duration : Height} {channel : Channel}
    (ho : Opened r sender receiver amount duration channel r')
    (hsessions : r'.sessions = r.sessions ∨
      r'.sessions = (r.cleared ⟨sender, receiver⟩).sessions) : r'.Marked := by
  refine marked_of_sessions h (fun e s hs => ?_) (exists_get?_insert ho.channels)
  rcases hsessions with hsame | hcleared
  · rw [hsame] at hs
    exact hs
  · rw [hcleared] at hs
    exact get?_sessions_cleared hs

theorem marked_redeemed {S : SignatureScheme} {r r' : Registry L} (h : r.Marked)
    {sender receiver : Account} {sessionId : SessionId} {amount : Amount} {signature : Bytes}
    {c : Channel} {receipt : Receipt}
    (hr : Redeemed S r sender receiver sessionId amount signature c receipt r')
    (hsessions : r'.sessions = r.sessions ∨
      r'.sessions = r.sessions.insert ⟨sender, receiver⟩ sessionId) : r'.Marked := by
  have hopen := exists_get?_insert hr.channels
  rcases hsessions with hsame | hset
  · exact marked_of_sessions h (fun e s hs => hsame ▸ hs) hopen
  · intro e s hs
    rw [hset, Table.get?_insert] at hs
    by_cases he : e = ⟨sender, receiver⟩
    · -- a session is above the mark before it, so it is not zero
      rw [if_pos he] at hs
      cases hs
      have hfresh : (r.lastSession ⟨sender, receiver⟩).val < sessionId.val := hr.fresh
      rw [he]
      exact ⟨hopen _ c hr.found, Nat.lt_of_le_of_lt (Nat.zero_le _) hfresh⟩
    · rw [if_neg he] at hs
      obtain ⟨⟨d, hd⟩, hpos⟩ := h e s hs
      exact ⟨hopen e d hd, hpos⟩

theorem marked_perform (S : SignatureScheme) {r : Registry L} (h : r.Marked)
    (operation : Operation) : (r.perform S operation).2.Marked := by
  obtain ⟨answer, r', hp, hout⟩ := exists_outcome S r operation
  rw [hp]
  cases hout with
  | refused operation refusal => exact h
  | refusedDebit operation refusal account x ledger hd => exact h
  | opened sender receiver amount duration channel r' ho =>
    have hsessions := r.sessions_openChannel sender receiver amount duration
    have hafter : (r.openChannel sender receiver amount duration).2 = r' := congrArg Prod.snd hp
    rw [hafter] at hsessions
    exact marked_opened h ho hsessions
  | funded sender receiver amount c channel r' hf =>
    have hsessions := r.sessions_addBalance sender receiver amount
    have hafter : (r.addBalance sender receiver amount).2 = r' := congrArg Prod.snd hp
    rw [hafter] at hsessions
    exact marked_of_sessions h (fun e s hs => hsessions ▸ hs) (exists_get?_insert hf.channels)
  | redeemed sender receiver sessionId amount signature c receipt r' hr =>
    have hsessions := r.sessions_claim S sender receiver sessionId amount signature
    have hafter : (r.claim S sender receiver sessionId amount signature).2 = r' :=
      congrArg Prod.snd hp
    rw [hafter] at hsessions
    exact marked_redeemed h hr hsessions
  | closed caller sender receiver party => exact marked_closeAll h _ _
  | closedExpired caller => exact marked_closeAll h _ _
  | swept => exact marked_closeAll h _ _
  | tookEvents => exact h
  | drained => exact h

/-! ## Statistics -/

/-- payments and payers are counted for the same receivers, and every receiver has a payer -/
structure Tallied (r : Registry L) : Prop where
  receivers : ∀ a, r.paid.contains a = r.clients.contains a
  payers : ∀ a known, r.clients.get? a = some known → ∃ b, known.contains b = true

theorem tallied_of_eq {r r' : Registry L} (h : r.Tallied) (hpaid : r'.paid = r.paid)
    (hclients : r'.clients = r.clients) : r'.Tallied := by
  refine ⟨?_, ?_⟩
  · rw [hpaid, hclients]
    exact h.receivers
  · rw [hclients]
    exact h.payers

theorem contains_insert {κ ν : Type} [ByteKey κ] [DecidableEq κ] (t : Table κ ν) (k k' : κ)
    (v : ν) : (t.insert k v).contains k' = (decide (k' = k) || t.contains k') := by
  unfold Table.contains
  rw [Table.get?_insert]
  by_cases h : k' = k
  · rw [if_pos h, decide_eq_true h]
    rfl
  · rw [if_neg h, decide_eq_false h]
    rfl

theorem tallied_recordPayment {r : Registry L} (h : r.Tallied) (sender receiver : Account)
    (amount : Amount) : (r.recordPayment sender receiver amount).Tallied := by
  unfold recordPayment
  refine ⟨fun a => ?_, fun a known hknown => ?_⟩
  · dsimp only
    rw [contains_insert, contains_insert, h.receivers a]
  · dsimp only at hknown
    rw [Table.get?_insert] at hknown
    by_cases ha : a = receiver
    · rw [if_pos ha] at hknown
      cases hknown
      refine ⟨sender, ?_⟩
      rw [contains_insert, decide_eq_true rfl, Bool.true_or]
    · rw [if_neg ha] at hknown
      exact h.payers a known hknown

theorem tallied_closeAll {r : Registry L} (h : r.Tallied) (now : Height) (keys : List Ends) :
    (r.closeAll now keys).2.Tallied := by
  apply closeAll_keeps (P := Tallied)
  · intro q ends c hq hc
    obtain ⟨-, -, hret⟩ := close_of_get? hc now
    exact tallied_of_eq hq hret.paid hret.clients
  · exact h

theorem tallied_perform (S : SignatureScheme) {r : Registry L} (h : r.Tallied)
    (operation : Operation) : (r.perform S operation).2.Tallied := by
  obtain ⟨answer, r', hp, hout⟩ := exists_outcome S r operation
  rw [hp]
  cases hout with
  | refused operation refusal => exact h
  | refusedDebit operation refusal account x ledger hd => exact tallied_of_eq h rfl rfl
  | opened sender receiver amount duration channel r' ho =>
    exact tallied_of_eq h ho.paid ho.clients
  | funded sender receiver amount c channel r' hf => exact tallied_of_eq h hf.paid hf.clients
  | redeemed sender receiver sessionId amount signature c receipt r' hr =>
    exact tallied_of_eq (tallied_recordPayment h sender receiver amount) hr.paid hr.clients
  | closed caller sender receiver party => exact tallied_closeAll h _ _
  | closedExpired caller => exact tallied_closeAll h _ _
  | swept => exact tallied_closeAll h _ _
  | tookEvents => exact tallied_of_eq h rfl rfl
  | drained => exact ⟨fun _ => rfl, fun _ _ hknown => nomatch hknown⟩

/-! ## The log -/

theorem length_logged_le {r r' : Registry L} {event : Event}
    (h : r.events.length ≤ eventCapacity) (hevents : r'.events = logged r.events event) :
    r'.events.length ≤ eventCapacity := by
  rw [hevents]
  exact length_emit_le r event h

theorem length_events_closeAll {r : Registry L} (h : r.events.length ≤ eventCapacity)
    (now : Height) (keys : List Ends) :
    (r.closeAll now keys).2.events.length ≤ eventCapacity := by
  apply closeAll_keeps (P := fun q => q.events.length ≤ eventCapacity)
  · intro q ends c hq hc
    obtain ⟨-, -, hret⟩ := close_of_get? hc now
    exact length_logged_le hq hret.events
  · exact h

theorem length_events_cleared {r : Registry L} (h : r.events.length ≤ eventCapacity)
    (ends : Ends) : (r.cleared ends).events.length ≤ eventCapacity := by
  cases hc : r.channels.get? ends with
  | none =>
    rw [cleared_of_none hc]
    exact h
  | some c => exact length_logged_le h (cleared_of_get? hc).events

theorem length_events_perform (S : SignatureScheme) {r : Registry L}
    (h : r.events.length ≤ eventCapacity) (operation : Operation) :
    (r.perform S operation).2.events.length ≤ eventCapacity := by
  obtain ⟨answer, r', hp, hout⟩ := exists_outcome S r operation
  rw [hp]
  cases hout with
  | refused operation refusal => exact h
  | refusedDebit operation refusal account x ledger hd => exact h
  | opened sender receiver amount duration channel r' ho =>
    exact length_logged_le (length_events_cleared h ⟨sender, receiver⟩) ho.events
  | funded sender receiver amount c channel r' hf => exact length_logged_le h hf.events
  | redeemed sender receiver sessionId amount signature c receipt r' hr =>
    exact length_logged_le h hr.events
  | closed caller sender receiver party => exact length_events_closeAll h _ _
  | closedExpired caller => exact length_events_closeAll h _ _
  | swept => exact length_events_closeAll h _ _
  | tookEvents => exact Nat.zero_le _
  | drained => exact h

/-! ## The whole invariant -/

/-- what the tables of a registry have in common -/
structure Consistent (r : Registry L) : Prop where
  filed : r.Filed
  aligned : ∀ ends, Aligned ends r
  dated : r.Dated
  marked : r.Marked
  tallied : r.Tallied
  bounded : r.events.length ≤ eventCapacity

theorem consistent_ofLedger (ledger : L) : (ofLedger ledger).Consistent where
  filed := filed_ofLedger ledger
  aligned := fun _ => ⟨fun _ hc => (nomatch hc), fun _ => rfl⟩
  dated := fun _ _ hc => nomatch hc
  marked := fun _ _ hs => nomatch hs
  tallied := ⟨fun _ => rfl, fun _ _ hknown => nomatch hknown⟩
  bounded := Nat.zero_le _

theorem consistent_perform [SteadyLedger L] (S : SignatureScheme) {r : Registry L}
    (h : r.Consistent) (operation : Operation) : (r.perform S operation).2.Consistent where
  filed := filed_perform S h.filed operation
  aligned := fun ends => aligned_step (h.aligned ends) (pair_step S h.filed ends operation)
  dated := dated_perform S h.dated operation
  marked := marked_perform S h.marked operation
  tallied := tallied_perform S h.tallied operation
  bounded := length_events_perform S h.bounded operation

theorem consistent_withLedger {r : Registry L} (h : r.Consistent) {ledger : L}
    (hheight : r.height ≤ Ledger.height ledger) : ({ r with ledger } : Registry L).Consistent where
  filed := h.filed
  aligned := fun ends => ⟨(h.aligned ends).nonce, (h.aligned ends).vacant⟩
  dated := by
    intro ends c hc
    obtain ⟨hne, hlt, hle⟩ := h.dated ends c hc
    exact ⟨hne, hlt, Nat.le_trans hle hheight⟩
  marked := h.marked
  tallied := tallied_of_eq h.tallied rfl rfl
  bounded := h.bounded

theorem consistent_step [SteadyLedger L] (S : SignatureScheme) {change : β → L → L}
    (hchange : ∀ b l, Ledger.height l ≤ Ledger.height (change b l)) {r : Registry L}
    (h : r.Consistent) (move : Move β) : (r.step S change move).Consistent := by
  cases move with
  | ask operation => exact consistent_perform S h operation
  | elapse b => exact consistent_withLedger h (hchange b r.ledger)

theorem consistent_run [SteadyLedger L] (S : SignatureScheme) {change : β → L → L}
    (hchange : ∀ b l, Ledger.height l ≤ Ledger.height (change b l)) (ledger : L)
    (moves : List (Move β)) : ((ofLedger ledger).after S change moves).Consistent :=
  run_induction S change (P := fun _ r => r.Consistent) (consistent_ofLedger ledger)
    (fun _ _ operation h => consistent_perform S h operation)
    (fun _ r b h => consistent_withLedger h (hchange b r.ledger)) moves

/-! ## The next nonce -/

theorem le_satAdd_one (n : Nonce) : n ≤ n.satAdd Word.one := by
  have hmax := Word.val_le_max n
  show n.val ≤ (n.satAdd Word.one).val
  rw [Word.val_satAdd]
  exact Nat.le_min.mpr ⟨Nat.le_add_right _ _, hmax⟩

theorem nextNonce_le_of_pairStep {ends : Ends} {r r' : Registry L} {notes : List Note}
    (ha : Aligned ends r) (hs : PairStep ends r r' notes) :
    r.nextNonce ends ≤ r'.nextNonce ends := by
  cases hs with
  | untouched same => exact Nat.le_of_eq (congrArg Word.val same.nextNonce.symm)
  | opened amount channel vacant nonce balance found nextNonce lastSession =>
    exact Nat.le_of_eq (congrArg Word.val nextNonce.symm)
  | reopened amount c channel stale nonce balance found nextNonce lastSession reported =>
    rw [nextNonce, nonce, ← ha.nonce c stale]
    exact le_satAdd_one c.nonce
  | funded amount c channel before nonce balance found nextNonce lastSession =>
    exact Nat.le_of_eq (congrArg Word.val nextNonce.symm)
  | redeemed sessionId amount c channel before nonce balance found nextNonce fresh lastSession =>
    exact Nat.le_of_eq (congrArg Word.val nextNonce.symm)
  | closed c now moved =>
    rw [moved.nextNonce, ← ha.nonce c moved.found]
    exact le_satAdd_one c.nonce

theorem nextNonce_after_le [SteadyLedger L] (S : SignatureScheme) {change : β → L → L}
    (hchange : ∀ b l, Ledger.height l ≤ Ledger.height (change b l)) {r : Registry L}
    (h : r.Consistent) (moves : List (Move β)) (ends : Ends) :
    r.nextNonce ends ≤ (r.after S change moves).nextNonce ends := by
  induction moves generalizing r with
  | nil => exact Nat.le_refl _
  | cons move rest ih =>
    have hrest := ih (consistent_step S hchange h move)
    refine Nat.le_trans ?_ hrest
    cases move with
    | ask operation =>
      exact nextNonce_le_of_pairStep (h.aligned ends) (pair_step S h.filed ends operation)
    | elapse b => exact Nat.le_refl _

/-- whatever is asked of a registry, over a ledger whose height never goes down: every channel is
under its own ends, runs between two accounts and from a height that was reached to a later one,
and has the nonce of its pair; only pairs with an open channel have a session mark, none of them
zero; payments and payers are for the same receivers; the log is bounded; and nonces never go down -/
theorem registry_consistent [SteadyLedger L] (S : SignatureScheme) (change : β → L → L)
    (hchange : ∀ b l, Ledger.height l ≤ Ledger.height (change b l)) (ledger : L)
    (moves : List (Move β)) :
    let r := (ofLedger ledger).after S change moves
    (∀ ends c, r.channels.get? ends = some c → c.ends = ends ∧ c.sender ≠ c.receiver ∧
      c.openedAt < c.expiresAt ∧ c.openedAt ≤ r.height ∧ c.nonce = r.nextNonce ends) ∧
    (∀ ends s, r.sessions.get? ends = some s →
      (∃ c, r.channels.get? ends = some c) ∧ 1 ≤ s.val) ∧
    (∀ ends, r.channels.get? ends = none → r.lastSession ends = Word.zero) ∧
    (∀ ends more, r.nextNonce ends ≤ (r.after S change more).nextNonce ends) ∧
    (∀ a, r.paid.contains a = r.clients.contains a) ∧
    (∀ a known, r.clients.get? a = some known → ∃ b, known.contains b = true) ∧
    r.events.length ≤ 1024 := by
  intro r
  have h := consistent_run S hchange ledger moves
  refine ⟨?_, h.marked, fun ends hnone => (h.aligned ends).vacant hnone, ?_,
    h.tallied.receivers, h.tallied.payers, h.bounded⟩
  · intro ends c hc
    obtain ⟨hne, hlt, hle⟩ := h.dated ends c hc
    exact ⟨h.filed ends c hc, hne, hlt, hle, (h.aligned ends).nonce c hc⟩
  · intro ends more
    exact nextNonce_after_le S hchange h more ends

/-- under a scheme that takes every signature, a channel is claimed from, closed and opened again
while blocks pass: the second one has nonce one, and its receiver still counts a payer -/
theorem registry_consistent_reopened :
    let scheme : SignatureScheme := ⟨fun _ => .repeated 0, fun _ _ => List.replicate 64 0,
      fun _ _ _ => true, fun _ _ => List.length_replicate⟩
    let ends : Ends := ⟨.repeated 1, .repeated 2⟩
    let amount : Amount := ⟨10, by decide⟩
    let opening := Operation.openChannel ends.sender ends.receiver amount ⟨100, by decide⟩
    let moves : List (Move Passage) :=
      [.ask opening, .ask (.claim ends.sender ends.receiver Word.one amount []),
        .elapse (.advance Word.one),
        .ask (.closeChannel ends.receiver ends.sender ends.receiver), .ask opening]
    let sheet := BalanceSheet.ofList [(ends.sender, ⟨100, by decide⟩)]
    let r := (ofLedger sheet).after scheme BalanceSheet.pass moves
    (∀ p s, Ledger.height s ≤ Ledger.height (BalanceSheet.pass p s)) ∧
      (r.channels.get? ends).isSome = true ∧
      (∀ c, r.channels.get? ends = some c → c.nonce = Word.one) ∧
      r.clients.contains ends.receiver = true := by
  intro scheme ends amount opening moves sheet r
  have hpass : ∀ p s, Ledger.height s ≤ Ledger.height (BalanceSheet.pass p s) :=
    BalanceSheet.height_le_pass
  obtain ⟨hchannels, -, -, -, hreceivers, -, -⟩ :=
    registry_consistent scheme BalanceSheet.pass hpass sheet moves
  have hrun : (r.channels.get? ends).isSome = true ∧ r.nextNonce ends = Word.one ∧
      r.paid.contains ends.receiver = true := by decide +kernel
  refine ⟨hpass, hrun.1, fun c hc => ?_, (hreceivers ends.receiver).symm.trans hrun.2.2⟩
  obtain ⟨-, -, -, -, hnonce⟩ := hchannels ends c hc
  exact hnonce.trans hrun.2.1

end Registry
end PayChannel
