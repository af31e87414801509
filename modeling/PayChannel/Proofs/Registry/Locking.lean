import Mathlib
import PayChannel.Proofs.Registry.Conservation

/-!
# The index of locked funds

What an account has locked is kept apart from its channels, and every operation keeps the two in step
by itself.  Locking stops at the largest amount and unlocking at zero, and an account is taken off the
index when nothing is left.  None of this ever hides anything: every write to the index moves its
amount in full, and an account leaves the index only when it has nothing in channels any more.

* `Locking`    a write to the index, with the registry that it finds;
* `lockings`, `Locking.Chain`    the writes of an operation, and that these are all of them;
* `Locking.Exact`    a write that moves its amount in full and keeps who still has funds in channels;
* `lockings_perform`, `locked_exact`    one operation, and whole runs.
-/

set_option linter.unusedSectionVars false

namespace PayChannel

/-- a write to the index of locked funds, with the registry that it finds -/
inductive Locking (L : Type) where
  | lock (found : Registry L) (account : Account) (amount : Amount)
  | unlock (found : Registry L) (account : Account) (amount : Amount)

namespace Locking

variable {L : Type}

def found : Locking L → Registry L
  | lock r _ _ => r
  | unlock r _ _ => r

def left : Locking L → Registry L
  | lock r account amount => r.lock account amount
  | unlock r account amount => r.unlock account amount

/-- every write finds the index that the one before it has left -/
def Chain : Table Account Amount → List (Locking L) → Table Account Amount → Prop
  | index, [], index' => index' = index
  | index, x :: rest, index' => x.found.locked = index ∧ Chain x.left.locked rest index'

/-- the amount was added or taken in full, what is listed then is what is in channels, and an account
that has a balance in a channel is listed -/
structure Exact (x : Locking L) : Prop where
  full : match x with
    | lock r account amount =>
      (x.left.totalLocked account).val = (r.totalLocked account).val + amount.val
    | unlock r account amount =>
      (x.left.totalLocked account).val + amount.val = (r.totalLocked account).val
  backed : ∀ a, (x.left.totalLocked a).val = x.left.inChannels a
  listed : ∀ ends c, x.left.channels.get? ends = some c → 0 < c.balance.val →
    x.left.locked.contains c.sender = true

theorem chain_append {index index' index'' : Table Account Amount} {writes more : List (Locking L)}
    (h : Chain index writes index') (h' : Chain index' more index'') :
    Chain index (writes ++ more) index'' := by
  induction writes generalizing index with
  | nil =>
    have hsame : index' = index := h
    exact hsame ▸ h'
  | cons x rest ih => exact ⟨h.1, ih h.2⟩

end Locking

namespace Registry

variable {L : Type} [Ledger L]

/-! ## The writes of an operation -/

def retireLockings (r : Registry L) (ends : Ends) : List (Locking L) :=
  match r.channels.get? ends with
  | none => []
  | some c => [.unlock { r with channels := r.channels.erase ends } c.sender c.balance]

def closeAllLockings (r : Registry L) (now : Height) : List Ends → List (Locking L)
  | [] => []
  | ends :: rest => r.retireLockings ends ++ closeAllLockings (r.close ends now).2 now rest

/-- the writes of an operation with its answer -/
def lockings (r : Registry L) : Operation → Answer → List (Locking L)
  | .openChannel sender receiver amount _, .opened channel =>
    let ends : Ends := ⟨sender, receiver⟩
    let paid : Registry L :=
      { r with ledger := (settleLock r.ledger sender amount (r.balanceAt ends)).2 }
    let vacant := (paid.retire ends r.height).2
    paid.retireLockings ends ++
      [.lock { vacant with channels := vacant.channels.insert ends channel } sender amount]
  | .addBalance sender receiver amount, .funded channel =>
    [.lock { r with
      ledger := (Ledger.debit r.ledger sender amount).2
      channels := r.channels.insert ⟨sender, receiver⟩ channel } sender amount]
  | .claim sender receiver sessionId amount _, .redeemed receipt =>
    let ends : Ends := ⟨sender, receiver⟩
    (r.channels.get? ends).toList.map fun c =>
      .unlock { r with
        ledger := Ledger.credit r.ledger receiver amount
        channels := r.channels.insert ends { c with balance := receipt.remaining }
        sessions := r.sessions.insert ends sessionId } sender amount
  | .closeChannel _ sender receiver, .closed _ => r.retireLockings ⟨sender, receiver⟩
  | .closeExpired caller, .closed _ =>
    r.closeAllLockings r.height (r.expiredEnds fun c => c.hasParty caller)
  | .sweep, .closed _ => r.closeAllLockings r.height (r.expiredEnds fun _ => true)
  | _, _ => []

/-! ## All writes -/

section
variable (r : Registry L)

theorem chain_retire (ends : Ends) (now : Height) :
    Locking.Chain r.locked (r.retireLockings ends) (r.retire ends now).2.locked := by
  unfold retireLockings
  cases h : r.channels.get? ends with
  | none =>
    rw [retire_none h]
    rfl
  | some c =>
    refine ⟨rfl, ?_⟩
    simp only [retire, h]
    rfl

theorem chain_close (ends : Ends) (now : Height) :
    Locking.Chain r.locked (r.retireLockings ends) (r.close ends now).2.locked := by
  have hlocked : (r.close ends now).2.locked = (r.retire ends now).2.locked := by
    unfold close
    rcases r.retire ends now with ⟨_ | closing, r'⟩
    · rfl
    · rfl
  rw [hlocked]
  exact r.chain_retire ends now

theorem chain_closeAll (now : Height) (keys : List Ends) :
    Locking.Chain r.locked (r.closeAllLockings now keys) (r.closeAll now keys).2.locked := by
  induction keys generalizing r with
  | nil => rfl
  | cons ends rest ih =>
    rw [closeAll_cons]
    exact Locking.chain_append (r.chain_close ends now) (ih (r.close ends now).2)

variable {r} {r' : Registry L} {sender receiver : Account} {amount : Amount}

theorem chain_openChannel {duration : Height} {channel : Channel}
    (h : r.openChannel sender receiver amount duration = (.ok channel, r')) :
    Locking.Chain r.locked
      (r.lockings (.openChannel sender receiver amount duration) (.opened channel)) r'.locked := by
  let paid : Registry L := { r with
    ledger := (settleLock r.ledger sender amount (r.balanceAt ⟨sender, receiver⟩)).2 }
  unfold openChannel at h
  dsimp only at h
  split at h
  · cases h
  split at h
  · cases h
  split at h
  · cases h
  split at h
  · cases h
  split at h
  · cases h
  · cases h
    refine Locking.chain_append (chain_retire paid ⟨sender, receiver⟩ r.height) ⟨rfl, ?_⟩
    simp only [Locking.left, retire_withLedger]
    rfl

theorem chain_addBalance {channel : Channel}
    (h : r.addBalance sender receiver amount = (.ok channel, r')) :
    Locking.Chain r.locked
      (r.lockings (.addBalance sender receiver amount) (.funded channel)) r'.locked := by
  unfold addBalance at h
  dsimp only at h
  split at h
  · cases h
  split at h
  · cases h
  split at h
  · cases h
  split at h
  · cases h
  · cases h
    exact ⟨rfl, rfl⟩

theorem chain_claim (S : SignatureScheme) {sessionId : SessionId} {signature : Bytes}
    {receipt : Receipt}
    (h : r.claim S sender receiver sessionId amount signature = (.ok receipt, r')) :
    Locking.Chain r.locked
      (r.lockings (.claim sender receiver sessionId amount signature) (.redeemed receipt))
      r'.locked := by
  unfold claim at h
  dsimp only at h
  unfold lockings
  dsimp only
  split at h
  · cases h
  rename_i hc
  rw [hc]
  split at h
  · cases h
  split at h
  · cases h
  split at h
  · cases h
  split at h
  · cases h
  · cases h
    exact ⟨rfl, rfl⟩

end

/-! ## Exactness -/

section
variable {q : Registry L} {a : Account} {x : Amount}

theorem contains_of_backed (hb : q.Backed) {ends : Ends} {c : Channel}
    (hc : q.channels.get? ends = some c) (hpos : 0 < c.balance.val) :
    q.locked.contains c.sender = true := by
  have hin := q.channels.weightAt_le_total (stake c.sender) ends
  have htotal := hb c.sender
  rw [Table.weightAt_of_get? _ hc, stake, if_pos rfl] at hin
  unfold Table.contains
  cases hlocked : q.locked.get? c.sender with
  | some total => rfl
  | none =>
    rw [totalLocked, hlocked, Option.getD_none, Word.val_zero] at htotal
    unfold inChannels at htotal
    omega

theorem exact_unlock (h : ∀ b, (q.totalLocked b).val = q.inChannels b + if a = b then x.val else 0) :
    (Locking.unlock q a x).Exact := by
  have hbacked : (q.unlock a x).Backed := by
    intro b
    have hin : (q.unlock a x).inChannels b = q.inChannels b := by
      unfold inChannels
      rw [channels_unlock]
    have hb := h b
    rw [totalLocked_unlock, hin]
    by_cases hab : a = b
    · rw [if_pos hab] at hb
      rw [if_pos hab.symm, Word.val_satSub, hab]
      omega
    · rw [if_neg hab] at hb
      rw [if_neg (Ne.symm hab)]
      exact hb
  have ha := h a
  rw [if_pos rfl] at ha
  refine ⟨?_, hbacked, fun ends c hc hpos => contains_of_backed hbacked hc hpos⟩
  show ((q.unlock a x).totalLocked a).val + x.val = (q.totalLocked a).val
  rw [totalLocked_unlock, if_pos rfl, Word.val_satSub]
  omega

theorem exact_lock (hfit : (q.totalLocked a).val + x.val < 2 ^ 128)
    (h : ∀ b, (q.totalLocked b).val + (if a = b then x.val else 0) = q.inChannels b) :
    (Locking.lock q a x).Exact := by
  have hfull : ((q.lock a x).totalLocked a).val = (q.totalLocked a).val + x.val := by
    rw [totalLocked_lock, if_pos rfl, Amount.val_satAdd_of_lt hfit]
  have hbacked : (q.lock a x).Backed := by
    intro b
    have hb := h b
    show _ = q.inChannels b
    by_cases hab : a = b
    · rw [if_pos hab] at hb
      rw [← hab] at hb ⊢
      rw [hfull, hb]
    · rw [if_neg hab] at hb
      rw [totalLocked_lock, if_neg (Ne.symm hab)]
      exact hb
  exact ⟨hfull, hbacked, fun ends c hc hpos => contains_of_backed hbacked hc hpos⟩

end

theorem exact_retire {r : Registry L} {ends : Ends} (hf : r.Filed) (hb : r.Backed) :
    ∀ x ∈ r.retireLockings ends, x.Exact := by
  intro x hx
  unfold retireLockings at hx
  cases hc : r.channels.get? ends with
  | none =>
    rw [hc] at hx
    cases hx
  | some c =>
    rw [hc] at hx
    obtain rfl := List.mem_singleton.mp hx
    refine exact_unlock fun b => ?_
    have hsender : c.sender = ends.sender := congrArg Ends.sender (hf ends c hc)
    have hin : ({ r with channels := r.channels.erase ends } : Registry L).inChannels b
        + (if ends.sender = b then (r.balanceAt ends).val else 0) = r.inChannels b :=
      inChannels_erase hf rfl b
    rw [balanceAt_of_get? hc, ← hb b, ← hsender] at hin
    exact hin.symm

section
variable {supply : Nat} {r r' : Registry BalanceSheet} {sender receiver : Account} {amount : Amount}

theorem exact_closeAllLockings (hfit : supply < 2 ^ 128) (now : Height) (keys : List Ends)
    (h : Balanced supply r) : ∀ x ∈ r.closeAllLockings now keys, x.Exact := by
  induction keys generalizing r with
  | nil => exact fun x hx => absurd hx List.not_mem_nil
  | cons ends rest ih =>
    intro x hx
    rcases List.mem_append.mp hx with hx | hx
    · exact exact_retire h.filed h.backed x hx
    · refine ih ?_ x hx
      cases hc : r.channels.get? ends with
      | none =>
        rw [close_of_none hc]
        exact h
      | some c => exact balanced_close hfit h hc now

theorem exact_openedLockings (hfit : supply < 2 ^ 128) (h : Balanced supply r) {duration : Height}
    {channel : Channel} (ho : Opened r sender receiver amount duration channel r') :
    ∀ x ∈ r.lockings (.openChannel sender receiver amount duration) (.opened channel), x.Exact := by
  intro x hx
  let paid : Registry BalanceSheet := { r with
    ledger := (settleLock r.ledger sender amount (r.balanceAt ⟨sender, receiver⟩)).2 }
  let vacant := (paid.retire ⟨sender, receiver⟩ r.height).2
  let q : Registry BalanceSheet :=
    { vacant with channels := vacant.channels.insert ⟨sender, receiver⟩ channel }
  rcases List.mem_append.mp hx with hx | hx
  · exact exact_retire (r := paid) h.filed h.backed x hx
  obtain rfl := List.mem_singleton.mp hx
  have hw : r.worth < 2 ^ 128 := h.worth ▸ hfit
  have hlocked : ∀ b, q.totalLocked b = (r.cleared ⟨sender, receiver⟩).totalLocked b := by
    intro b
    simp only [q, vacant, paid, retire_withLedger]
    rfl
  have hchannels : q.channels = r.channels.insert ⟨sender, receiver⟩ channel := by
    simp only [q, vacant, paid, retire_withLedger]
    exact insert_channels_cleared r _ _
  refine exact_lock (q := q) ?_ fun b => ?_
  · rw [hlocked]
    exact lock_sum_opened h.filed h.backed hw ho
  · have hbal := balanceAt_le_inChannels h.filed ⟨sender, receiver⟩
    have hvacant := totalLocked_cleared h.filed ⟨sender, receiver⟩ b
    have hin := inChannels_insert h.filed ho.ends hchannels b
    rw [ho.balance, ← h.backed b] at hin
    rw [hlocked, hvacant]
    by_cases hs : sender = b
    · subst hs
      rw [← h.backed] at hbal
      rw [if_pos rfl, if_pos rfl] at hin
      rw [if_pos rfl, if_pos rfl]
      dsimp only at hbal
      omega
    · rw [if_neg hs, if_neg hs] at hin
      rw [if_neg hs, if_neg hs]
      omega

theorem exact_fundedLockings (hfit : supply < 2 ^ 128) (h : Balanced supply r)
    {c channel : Channel} (hc : Funded r sender receiver amount c channel r') :
    ∀ x ∈ r.lockings (.addBalance sender receiver amount) (.funded channel), x.Exact := by
  intro x hx
  obtain rfl := List.mem_singleton.mp hx
  let q : Registry BalanceSheet := { r with
    ledger := (Ledger.debit r.ledger sender amount).2
    channels := r.channels.insert ⟨sender, receiver⟩ channel }
  have hends : channel.ends = ⟨sender, receiver⟩ := by
    rw [hc.channel_eq]
    exact h.filed _ c hc.found
  have hw : r.worth < 2 ^ 128 := h.worth ▸ hfit
  have hfits := lock_sum_funded h.backed hw hc
  refine exact_lock (q := q) hfits fun b => ?_
  have hin : q.inChannels b + _ = _ := inChannels_insert h.filed hends rfl b
  have hsum := hc.balance
  rw [balanceAt_of_get? hc.found, ← h.backed b] at hin
  show (r.totalLocked b).val + _ = _
  by_cases hs : sender = b
  · rw [if_pos hs, if_pos hs] at hin
    rw [if_pos hs]
    omega
  · rw [if_neg hs, if_neg hs] at hin
    rw [if_neg hs]
    omega

theorem exact_redeemedLockings {S : SignatureScheme} (h : Balanced supply r)
    {sessionId : SessionId} {signature : Bytes} {c : Channel} {receipt : Receipt}
    (hc : Redeemed S r sender receiver sessionId amount signature c receipt r') :
    ∀ x ∈ r.lockings (.claim sender receiver sessionId amount signature) (.redeemed receipt),
      x.Exact := by
  intro x hx
  let paidOut : Channel := { c with balance := receipt.remaining }
  let q : Registry BalanceSheet := { r with
    ledger := Ledger.credit r.ledger receiver amount
    channels := r.channels.insert ⟨sender, receiver⟩ paidOut
    sessions := r.sessions.insert ⟨sender, receiver⟩ sessionId }
  have hwrites : r.lockings (.claim sender receiver sessionId amount signature) (.redeemed receipt)
      = [.unlock q sender amount] := by
    unfold lockings
    dsimp only
    rw [hc.found]
    rfl
  rw [hwrites] at hx
  obtain rfl := List.mem_singleton.mp hx
  have hends : paidOut.ends = ⟨sender, receiver⟩ := h.filed _ c hc.found
  have hrest : receipt.remaining.val + amount.val = c.balance.val := by
    rw [hc.receipt_eq]
    exact Nat.sub_add_cancel hc.covered
  refine exact_unlock fun b => ?_
  have hin : q.inChannels b + _ = _ := inChannels_insert h.filed hends rfl b
  rw [balanceAt_of_get? hc.found, ← h.backed b] at hin
  show (r.totalLocked b).val = _
  by_cases hs : sender = b
  · rw [if_pos hs, if_pos hs] at hin
    rw [if_pos hs]
    dsimp only [paidOut] at hin
    omega
  · rw [if_neg hs, if_neg hs] at hin
    rw [if_neg hs]
    omega

end

/-! ## Operations and runs -/

theorem lockings_refused (r : Registry L) (operation : Operation) (refusal : Refusal) :
    r.lockings operation (.refused refusal) = [] := by
  cases operation <;> rfl

/-- an operation makes the writes that are listed for it and no others, and all of them are exact -/
theorem lockings_perform (S : SignatureScheme) {supply : Nat} (hfit : supply < 2 ^ 128)
    {r : Registry BalanceSheet} (h : Balanced supply r) (operation : Operation) :
    let writes := r.lockings operation (r.perform S operation).1
    Locking.Chain r.locked writes (r.perform S operation).2.locked ∧ ∀ x ∈ writes, x.Exact := by
  obtain ⟨answer, r', hp, hout⟩ := exists_outcome S r operation
  rw [hp]
  dsimp only
  cases hout with
  | refused operation refusal =>
    rw [lockings_refused]
    exact ⟨rfl, fun x hx => absurd hx List.not_mem_nil⟩
  | refusedDebit operation refusal account x ledger hd =>
    rw [lockings_refused]
    exact ⟨rfl, fun x hx => absurd hx List.not_mem_nil⟩
  | opened sender receiver amount duration channel r' ho =>
    have hopen := Answer.eq_ok_of_accepted (fun _ _ => Answer.opened.inj) (by rintro _ _ ⟨⟩) hp
    exact ⟨chain_openChannel hopen, exact_openedLockings hfit h ho⟩
  | funded sender receiver amount c channel r' hc =>
    have hadd := Answer.eq_ok_of_accepted (fun _ _ => Answer.funded.inj) (by rintro _ _ ⟨⟩) hp
    exact ⟨chain_addBalance hadd, exact_fundedLockings hfit h hc⟩
  | redeemed sender receiver sessionId amount signature c receipt r' hc =>
    have hclaim := Answer.eq_ok_of_accepted (fun _ _ => Answer.redeemed.inj) (by rintro _ _ ⟨⟩) hp
    exact ⟨chain_claim S hclaim, exact_redeemedLockings h hc⟩
  | closed caller sender receiver party =>
    refine ⟨?_, exact_retire h.filed h.backed⟩
    have hchain := r.chain_closeAll r.height [⟨sender, receiver⟩]
    rw [closeAllLockings, closeAllLockings, List.append_nil] at hchain
    exact hchain
  | closedExpired caller =>
    exact ⟨r.chain_closeAll _ _, exact_closeAllLockings hfit _ _ h⟩
  | swept => exact ⟨r.chain_closeAll _ _, exact_closeAllLockings hfit _ _ h⟩
  | tookEvents => exact ⟨rfl, fun x hx => absurd hx List.not_mem_nil⟩
  | drained => exact ⟨rfl, fun x hx => absurd hx List.not_mem_nil⟩

/-- the books of a run: they balance, and every operation so far has made the writes that are listed
for it and no others, all of them exact -/
structure LockedExactly (supply : Nat) (entries : List (Entry BalanceSheet))
    (r : Registry BalanceSheet) : Prop where
  balanced : Balanced supply r
  chain : ∀ e ∈ entries,
    Locking.Chain e.before.locked (e.before.lockings e.operation e.answer) e.after.locked
  exact_lockings : ∀ e ∈ entries, ∀ x ∈ e.before.lockings e.operation e.answer, x.Exact

theorem lockedExactly_perform (S : SignatureScheme) {supply : Nat} (hfit : supply < 2 ^ 128)
    {entries : List (Entry BalanceSheet)} {r : Registry BalanceSheet}
    (h : LockedExactly supply entries r) (operation : Operation) :
    LockedExactly supply (entries ++ [r.entry S operation]) (r.perform S operation).2 := by
  obtain ⟨hchain, hexact⟩ := lockings_perform S hfit h.balanced operation
  refine ⟨balanced_perform S hfit h.balanced operation, fun e he => ?_, fun e he => ?_⟩
  · rcases List.mem_append.mp he with he | he
    · exact h.chain e he
    · obtain rfl := List.mem_singleton.mp he
      exact hchain
  · rcases List.mem_append.mp he with he | he
    · exact h.exact_lockings e he
    · obtain rfl := List.mem_singleton.mp he
      exact hexact

/-- whatever is asked of a registry, in any order and while blocks pass: what is listed as locked for
an account is what it has in channels, and who has a balance in a channel is on the index; and at
every operation the index changes by the writes that are listed for it alone, each of which adds or
takes its amount in full and leaves everybody on the index who still has a balance in a channel -/
theorem locked_exact (S : SignatureScheme) (sheet : BalanceSheet)
    (hfit : sheet.totalIssuance < 2 ^ 128) (moves : List (Move Passage)) :
    let r := (ofLedger sheet).after S BalanceSheet.pass moves
    (∀ a, (r.totalLocked a).val = r.inChannels a) ∧
    (∀ ends c, r.channels.get? ends = some c → 0 < c.balance.val →
      r.locked.contains c.sender = true) ∧
    ∀ e ∈ (ofLedger sheet).journal S BalanceSheet.pass moves,
      let writes := e.before.lockings e.operation e.answer
      Locking.Chain e.before.locked writes e.after.locked ∧ ∀ x ∈ writes, x.Exact := by
  have hrun := run_induction S BalanceSheet.pass (P := LockedExactly sheet.totalIssuance)
    ⟨⟨filed_ofLedger sheet, backed_ofLedger sheet, rfl⟩, (fun _ he => absurd he List.not_mem_nil),
      (fun _ he => absurd he List.not_mem_nil)⟩
    (fun _ _ operation h => lockedExactly_perform S hfit h operation)
    (fun _ _ p h => ⟨balanced_pass h.balanced p, h.chain, h.exact_lockings⟩) moves
  have hbacked := hrun.balanced.backed
  exact ⟨hbacked, fun _ _ hc hpos => contains_of_backed hbacked hc hpos,
    fun e he => ⟨hrun.chain e he, hrun.exact_lockings e he⟩⟩

/-- an account with a hundred has a channel with forty and one with twenty, and a third with nothing
in it; when the first is closed, sixty shrink to twenty, and the account stays on the index -/
theorem locked_exact_three_channels :
    let sheet := BalanceSheet.ofList [(.repeated 1, ⟨100, by decide⟩)]
    let moves : List (Move Passage) :=
      [.ask (.openChannel (.repeated 1) (.repeated 2) ⟨40, by decide⟩ ⟨10, by decide⟩),
        .elapse (.advance ⟨3, by decide⟩),
        .ask (.openChannel (.repeated 1) (.repeated 3) ⟨20, by decide⟩ ⟨10, by decide⟩),
        .ask (.openChannel (.repeated 1) (.repeated 4) ⟨0, by decide⟩ ⟨10, by decide⟩),
        .ask (.closeChannel (.repeated 2) (.repeated 1) (.repeated 2))]
    let r := (ofLedger sheet).after ed25519 BalanceSheet.pass moves
    sheet.totalIssuance < 2 ^ 128 ∧ (r.totalLocked (.repeated 1)).val = 20 ∧
      r.inChannels (.repeated 1) = 20 := by
  intro sheet moves r
  have hfit : sheet.totalIssuance < 2 ^ 128 := by decide +kernel
  have hlocked : (r.totalLocked (.repeated 1)).val = 20 := by decide +kernel
  refine ⟨hfit, hlocked, ?_⟩
  rw [← (locked_exact ed25519 sheet hfit moves).1 (.repeated 1)]
  exact hlocked

end Registry
end PayChannel
