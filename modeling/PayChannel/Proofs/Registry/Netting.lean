import Mathlib
import PayChannel.Proofs.Registry.Consistency
import PayChannel.Proofs.Registry.Refusals
import PayChannel.Proofs.Registry.Reopening

/-!
# Opening within the refund

A new channel that takes the place of an expired one gets its balance as far as the refund goes.
Less than the refund needs nothing from the ledger, which cannot refuse to take the rest back.  The
whole refund is settled by a debit of zero, and a ledger may refuse that one too.

* `Apart`    every channel runs between two accounts, over any ledger;
* `openChannel_below_refund`, `openChannel_whole_refund`    the two settlements;
* `reopen_within_refund`    after any run.
-/

set_option linter.unusedSectionVars false

namespace PayChannel.Registry

variable {L β : Type} [Ledger L]

/-- every channel runs between two accounts -/
def Apart (r : Registry L) : Prop :=
  ∀ ends c, r.channels.get? ends = some c → c.sender ≠ c.receiver

theorem apart_ofLedger (ledger : L) : (ofLedger ledger).Apart :=
  fun _ _ hc => nomatch hc

theorem apart_perform (S : SignatureScheme) {r : Registry L} (h : r.Apart) (operation : Operation) :
    (r.perform S operation).2.Apart := by
  intro ends c' hc'
  rcases channel_origin S r operation hc' with ⟨c, hc, hsame⟩ | ⟨sender, receiver, _, _, ho⟩
  · rw [hsame]
    exact h ends c hc
  · have hsender : c'.sender = sender := congrArg Ends.sender ho.ends
    have hreceiver : c'.receiver = receiver := congrArg Ends.receiver ho.ends
    rw [hsender, hreceiver]
    exact ho.ends_ne

theorem expiry?_eq_some {now duration : Height} (hlong : 0 < duration.val)
    (hfits : now.val + duration.val < 2 ^ 64) :
    expiry? now duration = some ⟨now.val + duration.val, hfits⟩ := by
  rw [expiry?, if_neg (Nat.pos_iff_ne_zero.mp hlong)]
  exact (Word.checkedAdd?_eq_some_iff _ _ _).mpr rfl

section
variable {r : Registry L} {sender receiver : Account} {amount : Amount} {duration : Height}
  {c : Channel}

theorem le_satAdd_of_le {free refund : Amount} (h : amount ≤ refund) :
    amount ≤ free.satAdd refund := by
  have hmax := Word.val_le_max refund
  rw [Word.le_iff] at h ⊢
  rw [Word.val_satAdd]
  omega

/-- below the refund nothing is asked of the ledger: it takes the rest back -/
theorem openChannel_below_refund (hends : sender ≠ receiver) (hlong : 0 < duration.val)
    (hheight : r.height.val + duration.val < 2 ^ 64)
    (hc : r.channels.get? ⟨sender, receiver⟩ = some c) (hdue : c.isExpired r.height = true)
    (hbelow : amount < c.balance) :
    ∃ channel r', r.openChannel sender receiver amount duration = (.ok channel, r') ∧
      r'.ledger = Ledger.credit r.ledger sender (c.balance.satSub amount) := by
  have hbalance := balanceAt_of_get? hc
  have hsettled : settleLock r.ledger sender amount (r.balanceAt ⟨sender, receiver⟩)
      = (true, Ledger.credit r.ledger sender (c.balance.satSub amount)) := by
    rw [hbalance]
    exact if_neg (Nat.not_le.mpr hbelow)
  have hcovered : amount
      ≤ (Ledger.free r.ledger sender).satAdd (r.balanceAt ⟨sender, receiver⟩) := by
    rw [hbalance]
    exact le_satAdd_of_le (Nat.le_of_lt hbelow)
  rw [openChannel_of_settled hends (expiry?_eq_some hlong hheight) (staleChannel_of_due hc hdue)
    (Nat.not_lt.mpr hcovered) hsettled]
  exact ⟨_, _, rfl, rfl⟩

/-- the whole refund is settled by a debit of zero -/
theorem openChannel_whole_refund [LawfulLedger L] (hends : sender ≠ receiver)
    (hlong : 0 < duration.val) (hheight : r.height.val + duration.val < 2 ^ 64)
    (hc : r.channels.get? ⟨sender, receiver⟩ = some c) (hdue : c.isExpired r.height = true)
    {made : Bool} {ledger : L} (hdebit : Ledger.debit r.ledger sender Word.zero = (made, ledger)) :
    if made then ∃ channel r', r.openChannel sender receiver c.balance duration = (.ok channel, r') ∧
      r'.ledger = ledger
    else r.openChannel sender receiver c.balance duration = (.error .insufficientFunds, r) := by
  have hzero : c.balance.satSub c.balance = Word.zero := Word.ext (Nat.sub_self _)
  have hexpiry := expiry?_eq_some hlong hheight
  have hbalance := balanceAt_of_get? hc
  have hcovered : c.balance
      ≤ (Ledger.free r.ledger sender).satAdd (r.balanceAt ⟨sender, receiver⟩) := by
    rw [hbalance]
    exact le_satAdd_of_le (Nat.le_refl _)
  cases made with
  | true =>
    have hsettled : settleLock r.ledger sender c.balance (r.balanceAt ⟨sender, receiver⟩)
        = (true, ledger) := by
      rw [hbalance, ← hdebit, ← hzero]
      exact if_pos (Nat.le_refl _)
    rw [if_pos rfl, openChannel_of_settled hends hexpiry (staleChannel_of_due hc hdue)
      (Nat.not_lt.mpr hcovered) hsettled]
    exact ⟨_, _, rfl, rfl⟩
  | false =>
    rw [if_neg Bool.false_ne_true]
    have hdue' : ∀ c', r.channels.get? ⟨sender, receiver⟩ = some c' →
        c'.isExpired r.height = true := by
      intro c' hc'
      cases hc.symm.trans hc'
      exact hdue
    rw [← hzero] at hdebit
    rw [← hbalance] at hcovered hdebit ⊢
    exact openChannel_of_refused_debit hends hexpiry hdue' hcovered (Nat.le_refl _) hdebit

end

/-- whatever a registry has been through, and whatever its ledger refuses: opening over an expired
channel with less than its balance is accepted, and the ledger only gets the rest of it.  With just
its balance it is accepted if the ledger makes a debit of zero, and otherwise refused -/
theorem reopen_within_refund [LawfulLedger L] (S : SignatureScheme) (change : β → L → L) (ledger : L)
    (moves : List (Move β)) (sender receiver : Account) (amount : Amount) (duration : Height)
    (c : Channel)
    (hopen : ((ofLedger ledger).after S change moves).channels.get? ⟨sender, receiver⟩ = some c)
    (hdue : c.isExpired ((ofLedger ledger).after S change moves).height = true)
    (hlong : 0 < duration.val)
    (hheight : ((ofLedger ledger).after S change moves).height.val + duration.val < 2 ^ 64) :
    let r := (ofLedger ledger).after S change moves
    let opening := r.openChannel sender receiver amount duration
    let zero := Ledger.debit r.ledger sender Word.zero
    (amount < c.balance → opening.1.isOk = true ∧
      opening.2.ledger = Ledger.credit r.ledger sender (c.balance.satSub amount)) ∧
    (amount = c.balance → zero.1 = true → opening.1.isOk = true ∧ opening.2.ledger = zero.2) ∧
    (amount = c.balance → zero.1 = false → opening = (.error .insufficientFunds, r)) := by
  intro r opening zero
  have hfiled : r.Filed := run_induction S change (P := fun _ r => r.Filed) (filed_ofLedger ledger)
    (fun _ _ operation h => filed_perform S h operation) (fun _ _ _ h => h) moves
  have hapart : r.Apart := run_induction S change (P := fun _ r => r.Apart)
    (apart_ofLedger ledger) (fun _ _ operation h => apart_perform S h operation)
    (fun _ _ _ h => h) moves
  have hends : sender ≠ receiver := by
    have hsender : c.sender = sender := congrArg Ends.sender (hfiled _ c hopen)
    have hreceiver : c.receiver = receiver := congrArg Ends.receiver (hfiled _ c hopen)
    rw [← hsender, ← hreceiver]
    exact hapart _ c hopen
  refine ⟨fun hbelow => ?_, ?_, ?_⟩
  · obtain ⟨channel, r', haccepted, hledger⟩ :=
      openChannel_below_refund hends hlong hheight hopen hdue hbelow
    have hopening : opening = (.ok channel, r') := haccepted
    rw [hopening]
    exact ⟨rfl, hledger⟩
  · rintro rfl hmade
    have hzero : Ledger.debit r.ledger sender Word.zero = (true, zero.2) := Prod.ext hmade rfl
    have hwhole := openChannel_whole_refund hends hlong hheight hopen hdue hzero
    obtain ⟨channel, r', haccepted, hledger⟩ := (if_pos rfl).mp hwhole
    have hopening : opening = (.ok channel, r') := haccepted
    rw [hopening]
    exact ⟨rfl, hledger⟩
  · rintro rfl hrefused
    have hzero : Ledger.debit r.ledger sender Word.zero = (false, zero.2) := Prod.ext hrefused rfl
    exact openChannel_whole_refund hends hlong hheight hopen hdue hzero

/-- a channel of 100 expires, and the ledger is frozen: a new channel of 80 gets its balance from the
refund, and 20 are given back -/
theorem reopen_within_refund_frozen :
    let ends : Ends := ⟨.repeated 1, .repeated 2⟩
    let sheet := BalanceSheet.ofList [(ends.sender, ⟨150, by decide⟩)]
    let moves : List (Move (Reserved BalanceSheet → Reserved BalanceSheet)) :=
      [.ask (.openChannel ends.sender ends.receiver ⟨100, by decide⟩ ⟨5, by decide⟩),
        .elapse fun l => { l with inner := l.inner.advance ⟨5, by decide⟩, frozen := true }]
    let r := (ofLedger (⟨sheet, false, Word.zero⟩ : Reserved BalanceSheet)).after ed25519 id moves
    let opening := r.openChannel ends.sender ends.receiver ⟨80, by decide⟩ ⟨5, by decide⟩
    (∀ a x, (Ledger.debit r.ledger a x).1 = false) ∧ opening.1.isOk = true ∧
      opening.2.ledger = Ledger.credit r.ledger ends.sender ⟨20, by decide⟩ := by
  intro ends sheet moves r opening
  let c : Channel := ⟨ends.sender, ends.receiver, ⟨100, by decide⟩, Word.zero, Word.zero,
    ⟨5, by decide⟩⟩
  have hfrozen : ∀ a x, (Ledger.debit r.ledger a x).1 = false := by
    intro a x
    have hf : r.ledger.frozen = true := by decide +kernel
    show (Reserved.debit r.ledger a x).1 = false
    rw [Reserved.debit, hf]
    rfl
  obtain ⟨hbelow, -⟩ := reopen_within_refund ed25519 id
    (⟨sheet, false, Word.zero⟩ : Reserved BalanceSheet) moves ends.sender ends.receiver
    ⟨80, by decide⟩ ⟨5, by decide⟩ c (by decide +kernel) (by decide +kernel) (by decide)
    (by decide +kernel)
  have hrest : c.balance.satSub ⟨80, by decide⟩ = ⟨20, by decide⟩ := by decide
  have hopening := hbelow (by decide)
  rw [hrest] at hopening
  refine ⟨hfrozen, ?_⟩
  unfold opening r
  exact hopening

/-- the same channel, and a new one of 100, which is all of the refund: the frozen ledger refuses the
debit of zero, and so the new channel is refused -/
theorem reopen_whole_refund_refused :
    let ends : Ends := ⟨.repeated 1, .repeated 2⟩
    let sheet := BalanceSheet.ofList [(ends.sender, ⟨150, by decide⟩)]
    let moves : List (Move (Reserved BalanceSheet → Reserved BalanceSheet)) :=
      [.ask (.openChannel ends.sender ends.receiver ⟨100, by decide⟩ ⟨5, by decide⟩),
        .elapse fun l => { l with inner := l.inner.advance ⟨5, by decide⟩, frozen := true }]
    let r := (ofLedger (⟨sheet, false, Word.zero⟩ : Reserved BalanceSheet)).after ed25519 id moves
    let c : Channel := ⟨ends.sender, ends.receiver, ⟨100, by decide⟩, Word.zero, Word.zero,
      ⟨5, by decide⟩⟩
    let duration : Height := ⟨5, by decide⟩
    r.channels.get? ends = some c ∧ c.isExpired r.height = true ∧ 0 < duration.val ∧
      r.height.val + duration.val < 2 ^ 64 ∧ (⟨100, by decide⟩ : Amount) ≤ c.balance ∧
      (r.openChannel ends.sender ends.receiver ⟨100, by decide⟩ duration).1
        = .error .insufficientFunds := by
  intro ends sheet moves r c duration
  exact ⟨by decide +kernel, by decide +kernel, by decide, by decide +kernel, by decide,
    by decide +kernel⟩

end PayChannel.Registry
