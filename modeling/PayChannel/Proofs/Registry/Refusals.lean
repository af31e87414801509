import Mathlib
import PayChannel.Ledger.BalanceSheet
import PayChannel.Ledger.Reserved
import PayChannel.Proofs.Registry.Run

/-!
# Refused operations

Every operation makes its checks first, and past them the only thing that can still fail is a debit
of the ledger, which comes before all changes.  So over a lawful ledger, whatever is refused has
changed nothing: not the ledger and no table of the registry.  A lawful ledger may refuse a debit
for reasons of its own, also one of zero and also one that the free balance covers.

* `UnchangedIfRefused`    a call that is refused has left the registry as it was;
* `openChannel_of_refused_debit`, `addBalance_of_refused_debit`    a debit refused past the checks;
* `refusal_changes_nothing`    all operations that may be refused, after any run.
-/

set_option linter.unusedSectionVars false

namespace PayChannel.Registry

variable {L β : Type} [Ledger L]

/-- a call that is refused has left the registry as it was, with its ledger and all its tables -/
def UnchangedIfRefused {α : Type} (r : Registry L) (result : Except Refusal α × Registry L) : Prop :=
  ∀ refusal, result.1 = .error refusal → result.2 = r

theorem unchangedIfRefused_of_perform [LawfulLedger L] (S : SignatureScheme)
    (operation : Operation) {r : Registry L} {α : Type} {accepted : α → Answer}
    {result : Except Refusal α × Registry L}
    (h : r.perform S operation = result.map (Answer.ofResult accepted) id) :
    r.UnchangedIfRefused result := by
  intro refusal herror
  have hrefused : (r.perform S operation).1 = .refused refusal := by
    rw [h, Prod.map_fst, herror]
    rfl
  have hsame := perform_refused hrefused
  rw [h] at hsame
  exact hsame

/-! ## Refused debits -/

section
variable [LawfulLedger L] {r : Registry L} {sender receiver : Account} {amount : Amount} {ledger : L}

/-- opening that has passed its checks hangs on the debit of what the refund leaves to pay -/
theorem openChannel_of_refused_debit {duration expiresAt : Height} (hends : sender ≠ receiver)
    (hexp : expiry? r.height duration = some expiresAt)
    (hdue : ∀ c, r.channels.get? ⟨sender, receiver⟩ = some c → c.isExpired r.height = true)
    (hfree : amount ≤ (Ledger.free r.ledger sender).satAdd (r.balanceAt ⟨sender, receiver⟩))
    (hpay : r.balanceAt ⟨sender, receiver⟩ ≤ amount)
    (hdebit : Ledger.debit r.ledger sender (amount.satSub (r.balanceAt ⟨sender, receiver⟩))
      = (false, ledger)) :
    r.openChannel sender receiver amount duration = (.error .insufficientFunds, r) := by
  have hstale : r.staleChannel ⟨sender, receiver⟩
      = .ok (r.channels.get? ⟨sender, receiver⟩) := by
    unfold staleChannel
    cases hc : r.channels.get? ⟨sender, receiver⟩ with
    | none => rfl
    | some c => exact if_pos (hdue c hc)
  have hsettle : settleLock r.ledger sender amount (r.balanceAt ⟨sender, receiver⟩)
      = (false, ledger) := by
    unfold settleLock
    rw [if_pos hpay, hdebit]
  rw [openChannel_of_checks hends hexp hstale (Nat.not_lt.mpr hfree), hsettle]
  dsimp only
  rw [eq_of_refusedDebit hdebit]

theorem addBalance_of_refused_debit {c : Channel}
    (hc : r.channels.get? ⟨sender, receiver⟩ = some c) (hlive : c.isExpired r.height = false)
    (hfit : c.balance.val + amount.val < 2 ^ 128)
    (hdebit : Ledger.debit r.ledger sender amount = (false, ledger)) :
    r.addBalance sender receiver amount = (.error .insufficientFunds, r) := by
  have hsum : c.balance.checkedAdd? amount = some ⟨c.balance.val + amount.val, hfit⟩ :=
    (Word.checkedAdd?_eq_some_iff _ _ _).mpr rfl
  have hadd : r.addBalance sender receiver amount
      = (.error .insufficientFunds, { r with ledger }) := by
    simp [addBalance, hc, hlive, hsum, hdebit]
  rw [hadd, eq_of_refusedDebit hdebit]

end

/-- whatever a registry has been through, what it refuses leaves it as it was.  That includes the
debits that the ledger refuses past all checks: the one of funding, and the one of opening over an
expired channel, although the free balance and the refund cover the amount. -/
theorem refusal_changes_nothing [LawfulLedger L] (S : SignatureScheme) (change : β → L → L)
    (ledger : L) (moves : List (Move β)) :
    let r := (ofLedger ledger).after S change moves
    (∀ sender receiver amount duration,
      r.UnchangedIfRefused (r.openChannel sender receiver amount duration)) ∧
    (∀ sender receiver amount, r.UnchangedIfRefused (r.addBalance sender receiver amount)) ∧
    (∀ sender receiver sessionId amount signature,
      r.UnchangedIfRefused (r.claim S sender receiver sessionId amount signature)) ∧
    (∀ sender receiver voucher,
      r.UnchangedIfRefused (r.claimVoucher S sender receiver voucher)) ∧
    (∀ caller sender receiver, r.UnchangedIfRefused (r.closeChannel caller sender receiver)) ∧
    (∀ sender receiver amount c refusing, r.channels.get? ⟨sender, receiver⟩ = some c →
      c.isExpired r.height = false → c.balance.val + amount.val < 2 ^ 128 →
      Ledger.debit r.ledger sender amount = (false, refusing) →
      r.addBalance sender receiver amount = (.error .insufficientFunds, r)) ∧
    ∀ sender receiver amount duration expiresAt c refusing, sender ≠ receiver →
      expiry? r.height duration = some expiresAt →
      r.channels.get? ⟨sender, receiver⟩ = some c → c.isExpired r.height = true →
      amount ≤ (Ledger.free r.ledger sender).satAdd c.balance → c.balance ≤ amount →
      Ledger.debit r.ledger sender (amount.satSub c.balance) = (false, refusing) →
      r.openChannel sender receiver amount duration = (.error .insufficientFunds, r) := by
  intro r
  refine ⟨?_, ?_, ?_, ?_, ?_, ?_, ?_⟩
  · intro sender receiver amount duration
    exact unchangedIfRefused_of_perform S (.openChannel sender receiver amount duration) rfl
  · intro sender receiver amount
    exact unchangedIfRefused_of_perform S (.addBalance sender receiver amount) rfl
  · intro sender receiver sessionId amount signature
    exact unchangedIfRefused_of_perform S
      (.claim sender receiver sessionId amount signature) rfl
  · intro sender receiver voucher
    exact unchangedIfRefused_of_perform S
      (.claim sender receiver voucher.sessionId voucher.amount voucher.signature) rfl
  · intro caller sender receiver
    exact unchangedIfRefused_of_perform S (.closeChannel caller sender receiver) rfl
  · intro sender receiver amount c refusing hc hlive hfit hdebit
    exact addBalance_of_refused_debit hc hlive hfit hdebit
  · intro sender receiver amount duration expiresAt c refusing hends hexp hc hdue hfree hpay hdebit
    rw [← balanceAt_of_get? hc] at hfree hpay hdebit
    refine openChannel_of_refused_debit hends hexp (fun c' hc' => ?_) hfree hpay hdebit
    cases hc.symm.trans hc'
    exact hdue

/-- a channel of 100 out of 150 expires, and the ledger is frozen: opening a new one with 120 would
need a debit of 20, which 50 free would cover, and is refused -/
theorem refusal_changes_nothing_frozen :
    let ends : Ends := ⟨.repeated 1, .repeated 2⟩
    let sheet := BalanceSheet.ofList [(ends.sender, ⟨150, by decide⟩)]
    let moves : List (Move (Reserved BalanceSheet → Reserved BalanceSheet)) :=
      [.ask (.openChannel ends.sender ends.receiver ⟨100, by decide⟩ ⟨5, by decide⟩),
        .elapse fun l => { l with inner := l.inner.advance ⟨5, by decide⟩, frozen := true }]
    let r := (ofLedger (⟨sheet, false, Word.zero⟩ : Reserved BalanceSheet)).after ed25519 id moves
    r.totalLocked ends.sender = ⟨100, by decide⟩ ∧
      r.openChannel ends.sender ends.receiver ⟨120, by decide⟩ ⟨5, by decide⟩
        = (.error .insufficientFunds, r) := by
  intro ends sheet moves r
  have hlocked : r.totalLocked ends.sender = ⟨100, by decide⟩ := by decide +kernel
  obtain ⟨-, -, -, -, -, -, hreopen⟩ := refusal_changes_nothing ed25519 id
    (⟨sheet, false, Word.zero⟩ : Reserved BalanceSheet) moves
  refine ⟨hlocked, hreopen ends.sender ends.receiver ⟨120, by decide⟩ ⟨5, by decide⟩
    ⟨10, by decide⟩ ⟨ends.sender, ends.receiver, ⟨100, by decide⟩, Word.zero, Word.zero,
      ⟨5, by decide⟩⟩ r.ledger (by decide) (by decide +kernel) (by decide +kernel)
    (by decide +kernel) (by decide +kernel) (by decide +kernel) ?_⟩
  rfl

end PayChannel.Registry
