import Mathlib
import PayChannel.Proofs.Registry.Bookkeeping

/-!
# What an accepted operation has checked and done

An operation that may be refused either is refused, and then changes nothing but what a refused
debit may have done to the ledger, or it is accepted.  For each of them a structure holds all that
follows from its acceptance: the checks that passed, the answer, and every table afterwards.

* `Opened`, `Funded`, `Redeemed`, `Closed`    what acceptance means, operation by operation;
* `openChannel_cases` and its like    refused, or accepted with all that follows.
-/

set_option linter.unusedSectionVars false

namespace PayChannel.Registry

variable {L : Type} [Ledger L]

/-- the balance of the channel between two ends, zero if none is open -/
def balanceAt (r : Registry L) (ends : Ends) : Amount :=
  ((r.channels.get? ends).map Channel.balance).getD Word.zero

/-- the registry without the channel between two ends, which a new one takes the place of -/
def cleared (r : Registry L) (ends : Ends) : Registry L :=
  (r.retire ends r.height).2

theorem balanceAt_of_get? {r : Registry L} {ends : Ends} {c : Channel}
    (h : r.channels.get? ends = some c) : r.balanceAt ends = c.balance := by
  rw [balanceAt, h]
  rfl

theorem balanceAt_of_none {r : Registry L} {ends : Ends} (h : r.channels.get? ends = none) :
    r.balanceAt ends = Word.zero := by
  rw [balanceAt, h]
  rfl

theorem cleared_of_none {r : Registry L} {ends : Ends} (h : r.channels.get? ends = none) :
    r.cleared ends = r := by
  rw [cleared, retire_none h]

theorem cleared_of_get? {r : Registry L} {ends : Ends} {c : Channel}
    (h : r.channels.get? ends = some c) : Retired r ends r.height c (r.cleared ends) :=
  (retire_of_get? h r.height).2

/-! ## Opening -/

structure Opened (r : Registry L) (sender receiver : Account) (amount : Amount) (duration : Height)
    (channel : Channel) (r' : Registry L) : Prop where
  ends_ne : sender ≠ receiver
  expiry : expiry? r.height duration = some channel.expiresAt
  stale : ∀ c, r.channels.get? ⟨sender, receiver⟩ = some c → c.isExpired r.height = true
  settled : settleLock r.ledger sender amount (r.balanceAt ⟨sender, receiver⟩) = (true, r'.ledger)
  ends : channel.ends = ⟨sender, receiver⟩
  balance : channel.balance = amount
  openedAt : channel.openedAt = r.height
  nonce : channel.nonce = (r.cleared ⟨sender, receiver⟩).nextNonce ⟨sender, receiver⟩
  channels : r'.channels = r.channels.insert ⟨sender, receiver⟩ channel
  nextNonce : ∀ e, r'.nextNonce e = (r.cleared ⟨sender, receiver⟩).nextNonce e
  lastSession : ∀ e, r'.lastSession e = (r.cleared ⟨sender, receiver⟩).lastSession e
  totalLocked : ∀ a, r'.totalLocked a = if a = sender
    then ((r.cleared ⟨sender, receiver⟩).totalLocked sender).satAdd amount
    else (r.cleared ⟨sender, receiver⟩).totalLocked a
  paid : r'.paid = r.paid
  clients : r'.clients = r.clients
  events : r'.events = logged (r.cleared ⟨sender, receiver⟩).events (.opened channel)

theorem staleChannel_eq_ok {r : Registry L} {ends : Ends} {stale : Option Channel}
    (h : r.staleChannel ends = .ok stale) :
    stale = r.channels.get? ends ∧
      ∀ c, r.channels.get? ends = some c → c.isExpired r.height = true := by
  unfold staleChannel at h
  cases hc : r.channels.get? ends with
  | none =>
    rw [hc] at h
    cases h
    exact ⟨rfl, fun c h' => nomatch h'⟩
  | some c =>
    rw [hc] at h
    dsimp only at h
    split at h
    · rename_i hexp
      cases h
      exact ⟨rfl, fun c' h' => by cases h'; exact hexp⟩
    · cases h

theorem insert_channels_cleared (r : Registry L) (ends : Ends) (c : Channel) :
    (r.cleared ends).channels.insert ends c = r.channels.insert ends c := by
  apply Table.ext_get?
  intro e
  rw [Table.get?_insert, Table.get?_insert, cleared, get?_channels_retire]
  by_cases h : e = ends
  · rw [if_pos h, if_pos h]
  · rw [if_neg h, if_neg h, if_neg h]

theorem paid_cleared (r : Registry L) (ends : Ends) : (r.cleared ends).paid = r.paid := by
  cases h : r.channels.get? ends with
  | none => rw [cleared_of_none h]
  | some c => exact (cleared_of_get? h).paid

theorem clients_cleared (r : Registry L) (ends : Ends) :
    (r.cleared ends).clients = r.clients := by
  cases h : r.channels.get? ends with
  | none => rw [cleared_of_none h]
  | some c => exact (cleared_of_get? h).clients

/-- a settlement debits what the amount has over the refund, or else credits what the refund has over
the amount -/
theorem settleLock_cases {l l' : L} {sender : Account} {amount refund : Amount} {made : Bool}
    (h : settleLock l sender amount refund = (made, l')) :
    (refund.val ≤ amount.val ∧ Ledger.debit l sender (amount.satSub refund) = (made, l')) ∨
    (amount.val < refund.val ∧ made = true ∧
      l' = Ledger.credit l sender (refund.satSub amount)) := by
  unfold settleLock at h
  split at h
  · exact .inl ⟨‹_›, h⟩
  · cases h
    exact .inr ⟨Nat.lt_of_not_le ‹_›, rfl, rfl⟩

/-- past its checks, opening hangs on the ledger alone -/
theorem openChannel_of_checks {r : Registry L} {sender receiver : Account} {amount : Amount}
    {duration expiresAt : Height} (hends : sender ≠ receiver)
    (hexp : expiry? r.height duration = some expiresAt)
    (hstale : r.staleChannel ⟨sender, receiver⟩ = .ok (r.channels.get? ⟨sender, receiver⟩))
    (hfree : ¬ (Ledger.free r.ledger sender).satAdd (r.balanceAt ⟨sender, receiver⟩) < amount) :
    r.openChannel sender receiver amount duration
      = match settleLock r.ledger sender amount (r.balanceAt ⟨sender, receiver⟩) with
        | (false, ledger) => (.error .insufficientFunds, { r with ledger })
        | (true, ledger) =>
          let q : Registry L := { r.cleared ⟨sender, receiver⟩ with ledger }
          let channel : Channel :=
            { sender, receiver, balance := amount, nonce := q.nextNonce ⟨sender, receiver⟩,
              openedAt := r.height, expiresAt }
          (.ok channel, (({ q with channels := q.channels.insert ⟨sender, receiver⟩ channel }).lock
            sender amount).emit (.opened channel)) := by
  simp only [openChannel, if_neg hends, hexp, hstale, retire_withLedger]
  exact if_neg hfree

theorem openChannel_cases (r : Registry L) (sender receiver : Account) (amount : Amount)
    (duration : Height) :
    (∃ refusal, r.openChannel sender receiver amount duration = (.error refusal, r)) ∨
    (∃ refusal x ledger, Ledger.debit r.ledger sender x = (false, ledger) ∧
      r.openChannel sender receiver amount duration = (.error refusal, { r with ledger })) ∨
    ∃ channel r', r.openChannel sender receiver amount duration = (.ok channel, r') ∧
      Opened r sender receiver amount duration channel r' := by
  by_cases hends : sender = receiver
  · exact .inl ⟨_, if_pos hends⟩
  cases hexp : expiry? r.height duration with
  | none => exact .inl ⟨.invalidDuration, by simp only [openChannel, if_neg hends, hexp]⟩
  | some expiresAt =>
    cases hstale : r.staleChannel ⟨sender, receiver⟩ with
    | error refusal =>
      exact .inl ⟨refusal, by simp only [openChannel, if_neg hends, hexp, hstale]⟩
    | ok stale =>
      obtain ⟨rfl, hdue⟩ := staleChannel_eq_ok hstale
      by_cases hfree : (Ledger.free r.ledger sender).satAdd (r.balanceAt ⟨sender, receiver⟩)
          < amount
      · exact .inl ⟨.insufficientFunds, by
          simp only [openChannel, if_neg hends, hexp, hstale]
          exact if_pos hfree⟩
      · right
        have hopen := openChannel_of_checks hends hexp hstale hfree
        cases hs : settleLock r.ledger sender amount (r.balanceAt ⟨sender, receiver⟩) with
        | mk made ledger =>
          rw [hs] at hopen
          cases made with
          | false =>
            obtain ⟨-, hdebit⟩ | ⟨-, hmade, -⟩ := settleLock_cases hs
            · exact .inl ⟨_, _, ledger, hdebit, hopen⟩
            · cases hmade
          | true =>
            refine .inr ⟨_, _, hopen, ?_⟩
            constructor
            · exact hends
            · exact hexp
            · exact hdue
            · exact hs
            · rfl
            · rfl
            · rfl
            · rfl
            · exact insert_channels_cleared r _ _
            · exact fun e => rfl
            · exact fun e => rfl
            · exact fun a => totalLocked_lock _ sender amount a
            · exact paid_cleared r _
            · exact clients_cleared r _
            · rfl

/-! ## Funding -/

structure Funded (r : Registry L) (sender receiver : Account) (amount : Amount) (c channel : Channel)
    (r' : Registry L) : Prop where
  found : r.channels.get? ⟨sender, receiver⟩ = some c
  live : c.isExpired r.height = false
  channel_eq : channel = { c with balance := channel.balance }
  balance : c.balance.val + amount.val = channel.balance.val
  debited : Ledger.debit r.ledger sender amount = (true, r'.ledger)
  channels : r'.channels = r.channels.insert ⟨sender, receiver⟩ channel
  nextNonce : ∀ e, r'.nextNonce e = r.nextNonce e
  lastSession : ∀ e, r'.lastSession e = r.lastSession e
  totalLocked : ∀ a, r'.totalLocked a
    = if a = sender then (r.totalLocked sender).satAdd amount else r.totalLocked a
  paid : r'.paid = r.paid
  clients : r'.clients = r.clients
  events : r'.events = logged r.events (.funded sender receiver amount r.height)

theorem addBalance_cases (r : Registry L) (sender receiver : Account) (amount : Amount) :
    (∃ refusal, r.addBalance sender receiver amount = (.error refusal, r)) ∨
    (∃ refusal x ledger, Ledger.debit r.ledger sender x = (false, ledger) ∧
      r.addBalance sender receiver amount = (.error refusal, { r with ledger })) ∨
    ∃ c channel r', r.addBalance sender receiver amount = (.ok channel, r') ∧
      Funded r sender receiver amount c channel r' := by
  cases hc : r.channels.get? ⟨sender, receiver⟩ with
  | none => exact .inl ⟨.notFound, by simp only [addBalance, hc]⟩
  | some c =>
    cases hexp : c.isExpired r.height with
    | true => exact .inl ⟨.expired, by simp only [addBalance, hc, hexp, if_true]⟩
    | false =>
      cases hsum : c.balance.checkedAdd? amount with
      | none =>
        exact .inl ⟨.balanceOverflow, by simp [addBalance, hc, hexp, hsum]⟩
      | some balance =>
        right
        cases hd : Ledger.debit r.ledger sender amount with
        | mk made ledger =>
          cases made with
          | false =>
            exact .inl ⟨.insufficientFunds, amount, ledger, hd, by
              simp [addBalance, hc, hexp, hsum, hd]⟩
          | true =>
            let stepped : Registry L := { r with
              ledger
              channels := r.channels.insert ⟨sender, receiver⟩ { c with balance } }
            have hadd : r.addBalance sender receiver amount
                = (.ok { c with balance },
                  (stepped.lock sender amount).emit (.funded sender receiver amount r.height)) := by
              simp [addBalance, hc, hexp, hsum, hd, stepped]
            refine .inr ⟨c, _, _, hadd, ?_⟩
            constructor
            · exact hc
            · exact hexp
            · rfl
            · exact (Word.checkedAdd?_eq_some_iff _ _ _).mp hsum
            · exact hd
            · rfl
            · exact fun e => rfl
            · exact fun e => rfl
            · exact fun a => totalLocked_lock _ sender amount a
            · rfl
            · rfl
            · rfl

/-! ## Claiming -/

structure Redeemed (S : SignatureScheme) (r : Registry L) (sender receiver : Account)
    (sessionId : SessionId) (amount : Amount) (signature : Bytes) (c : Channel) (receipt : Receipt)
    (r' : Registry L) : Prop where
  found : r.channels.get? ⟨sender, receiver⟩ = some c
  live : c.isExpired r.height = false
  verified : S.verifyVoucher sender receiver c.nonce sessionId amount signature = true
  fresh : r.lastSession ⟨sender, receiver⟩ < sessionId
  covered : amount.val ≤ c.balance.val
  receipt_eq : receipt = { sender, receiver, sessionId, amount, remaining := c.balance.satSub amount }
  ledger : r'.ledger = Ledger.credit r.ledger receiver amount
  channels : r'.channels
    = r.channels.insert ⟨sender, receiver⟩ { c with balance := c.balance.satSub amount }
  nextNonce : ∀ e, r'.nextNonce e = r.nextNonce e
  lastSession : ∀ e, r'.lastSession e
    = if e = ⟨sender, receiver⟩ then sessionId else r.lastSession e
  totalLocked : ∀ a, r'.totalLocked a
    = if a = sender then (r.totalLocked sender).satSub amount else r.totalLocked a
  paid : r'.paid = (r.recordPayment sender receiver amount).paid
  clients : r'.clients = (r.recordPayment sender receiver amount).clients
  events : r'.events = logged r.events (.claimed sender receiver sessionId amount)

theorem claim_cases (S : SignatureScheme) (r : Registry L) (sender receiver : Account)
    (sessionId : SessionId) (amount : Amount) (signature : Bytes) :
    (∃ refusal, r.claim S sender receiver sessionId amount signature = (.error refusal, r)) ∨
    ∃ c receipt r', r.claim S sender receiver sessionId amount signature = (.ok receipt, r') ∧
      Redeemed S r sender receiver sessionId amount signature c receipt r' := by
  cases hc : r.channels.get? ⟨sender, receiver⟩ with
  | none => exact .inl ⟨.notFound, by simp only [claim, hc]⟩
  | some c =>
    cases hexp : c.isExpired r.height with
    | true => exact .inl ⟨.expired, by simp only [claim, hc, hexp, if_true]⟩
    | false =>
      cases hv : S.verifyVoucher sender receiver c.nonce sessionId amount signature with
      | false => exact .inl ⟨.invalidSignature, by simp [claim, hc, hexp, hv]⟩
      | true =>
        by_cases hs : sessionId ≤ r.lastSession ⟨sender, receiver⟩
        · exact .inl ⟨.staleSession, by simp [claim, hc, hexp, hv, hs]⟩
        · cases hsub : c.balance.checkedSub? amount with
          | none => exact .inl ⟨.insufficientBalance, by simp [claim, hc, hexp, hv, hs, hsub]⟩
          | some remaining =>
            obtain ⟨hle, hrem⟩ := (Word.checkedSub?_eq_some_iff _ _ _).mp hsub
            obtain rfl : remaining = c.balance.satSub amount := Word.ext hrem
            let stepped : Registry L := { r with
              channels := r.channels.insert ⟨sender, receiver⟩
                { c with balance := c.balance.satSub amount }
              sessions := r.sessions.insert ⟨sender, receiver⟩ sessionId
              ledger := Ledger.credit r.ledger receiver amount }
            have hclaim : r.claim S sender receiver sessionId amount signature
                = (.ok ⟨sender, receiver, sessionId, amount, c.balance.satSub amount⟩,
                  ((stepped.unlock sender amount).recordPayment sender receiver amount).emit
                    (.claimed sender receiver sessionId amount)) := by
              simp [claim, hc, hexp, hv, hs, hsub, stepped]
            obtain ⟨locked, hunlock⟩ := stepped.unlock_eq sender amount
            refine .inr ⟨c, _, _, hclaim, ?_⟩
            constructor
            · exact hc
            · exact hexp
            · exact hv
            · exact Nat.lt_of_not_le hs
            · exact hle
            · rfl
            · simp only [ledger_emit, ledger_recordPayment, ledger_unlock, stepped]
            · simp only [channels_emit, channels_recordPayment, channels_unlock, stepped]
            · intro e
              simp only [nextNonce, nonces_emit, nonces_recordPayment, nonces_unlock, stepped]
            · intro e
              simp only [lastSession, sessions_emit, sessions_recordPayment, sessions_unlock,
                stepped, Table.get?_insert]
              split <;> rfl
            · exact fun a => totalLocked_unlock stepped sender amount a
            · simp only [paid_emit, recordPayment, hunlock, stepped]
            · simp only [clients_emit, recordPayment, hunlock, stepped]
            · simp only [events_emit, events_recordPayment, events_unlock, stepped]

/-! ## Closing -/

structure Closed (r : Registry L) (ends : Ends) (c : Channel) (closing : Closing)
    (r' : Registry L) : Prop where
  found : r.channels.get? ends = some c
  closing_eq : closing = closingOf c r.height
  ledger : r'.ledger = Ledger.credit r.ledger c.sender c.balance
  retired : Retired r ends r.height c r'

theorem closeChannel_cases (r : Registry L) (caller sender receiver : Account) :
    (∃ refusal, r.closeChannel caller sender receiver = (.error refusal, r)) ∨
    ∃ c closing r', r.closeChannel caller sender receiver = (.ok closing, r') ∧
      (caller = sender ∨ caller = receiver) ∧ Closed r ⟨sender, receiver⟩ c closing r' := by
  by_cases hparty : caller ≠ sender ∧ caller ≠ receiver
  · exact .inl ⟨_, if_pos hparty⟩
  · cases hc : r.channels.get? ⟨sender, receiver⟩ with
    | none =>
      refine .inl ⟨.notFound, ?_⟩
      rw [closeChannel, if_neg hparty, close_of_none hc]
    | some c =>
      obtain ⟨hclosing, hledger, hret⟩ := close_of_get? hc r.height
      have hpair : r.close ⟨sender, receiver⟩ r.height
          = (some (closingOf c r.height), (r.close ⟨sender, receiver⟩ r.height).2) :=
        Prod.ext hclosing rfl
      have hclose : r.closeChannel caller sender receiver
          = (.ok (closingOf c r.height), (r.close ⟨sender, receiver⟩ r.height).2) := by
        rw [closeChannel, if_neg hparty, hpair]
      refine .inr ⟨c, _, _, hclose, ?_, hc, rfl, hledger, hret⟩
      by_cases h : caller = sender
      · exact .inl h
      · exact .inr (Classical.byContradiction fun h' => hparty ⟨h, h'⟩)

end PayChannel.Registry
