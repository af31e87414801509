import Mathlib
import PayChannel.Proofs.Registry.Holdings

/-!
# Whose funds an operation touches

A free balance goes down only where its account locks funds, and what an account owns goes down only
where a voucher that it has signed is redeemed.  The channels that a caller closes as expired have
the caller as a party.

* `Operation.payer`, `free_perform`    who may lose free balance;
* `Vouched`, `wealth_perform`    what it takes for an account to own less;
* `party_closeExpired`    whose channels are closed when they are due.
-/

set_option linter.unusedSectionVars false

namespace PayChannel

/-- the account whose free balance an operation may draw on -/
def Operation.payer : Operation → Option Account
  | .openChannel sender _ _ _ => some sender
  | .addBalance sender _ _ => some sender
  | _ => none

theorem BalanceSheet.free_le_credit (s : BalanceSheet) (a b : Account) (x : Amount) :
    (s.free b).val ≤ ((s.credit a x).free b).val := by
  rw [free_credit]
  by_cases hb : b = a
  · have hlt := Amount.val_lt (s.free a)
    rw [if_pos hb, hb, Word.val_satAdd]
    exact Nat.le_min.mpr ⟨Nat.le_add_right _ _, Nat.le_sub_one_of_lt hlt⟩
  · rw [if_neg hb]

namespace Registry

/-! ## Free balances -/

theorem free_le_settleLock {s s' : BalanceSheet} {sender a : Account} {amount refund : Amount}
    (h : settleLock s sender amount refund = (true, s')) (ha : a ≠ sender) :
    (s.free a).val ≤ (s'.free a).val := by
  obtain ⟨-, hpaid⟩ | ⟨-, -, rfl⟩ := settleLock_cases h
  · have hfree := BalanceSheet.val_free_debit hpaid a
    rw [if_neg ha] at hfree
    exact Nat.le_of_eq hfree.symm
  · exact s.free_le_credit sender a _

theorem free_le_closeAll (r : Registry BalanceSheet) (now : Height) (keys : List Ends)
    (a : Account) : (r.ledger.free a).val ≤ ((r.closeAll now keys).2.ledger.free a).val := by
  apply closeAll_keeps (P := fun q : Registry BalanceSheet =>
    (r.ledger.free a).val ≤ (q.ledger.free a).val)
  · intro q ends c hq hc
    obtain ⟨-, hledger, -⟩ := close_of_get? hc now
    rw [hledger]
    exact Nat.le_trans hq (q.ledger.free_le_credit c.sender a c.balance)
  · exact Nat.le_refl _

/-- who does not pay for an operation has no less free balance after it -/
theorem free_perform (S : SignatureScheme) (r : Registry BalanceSheet) {operation : Operation}
    {a : Account} (ha : operation.payer ≠ some a) :
    (r.ledger.free a).val ≤ ((r.perform S operation).2.ledger.free a).val := by
  obtain ⟨answer, r', hp, hout⟩ := exists_outcome S r operation
  rw [hp]
  cases hout with
  | refused operation refusal => exact Nat.le_refl _
  | refusedDebit operation refusal account x ledger h =>
    rw [eq_of_refusedDebit h]
  | opened sender receiver amount duration channel r' h =>
    exact free_le_settleLock h.settled fun hs => ha (congrArg some hs.symm)
  | funded sender receiver amount c channel r' h =>
    have hfree := BalanceSheet.val_free_debit h.debited a
    rw [if_neg fun hs => ha (congrArg some hs.symm)] at hfree
    exact Nat.le_of_eq hfree.symm
  | redeemed sender receiver sessionId amount signature c receipt r' h =>
    have hledger : r'.ledger = r.ledger.credit receiver amount := h.ledger
    rw [hledger]
    exact r.ledger.free_le_credit receiver a amount
  | closed caller sender receiver party => exact r.free_le_closeAll _ _ a
  | closedExpired caller => exact r.free_le_closeAll _ _ a
  | swept => exact r.free_le_closeAll _ _ a
  | tookEvents => exact Nat.le_refl _
  | drained => exact Nat.le_refl _

/-! ## What an account owns -/

/-- a voucher of the sender has been redeemed, and the sender owns that much less -/
structure Vouched (S : SignatureScheme) (r : Registry BalanceSheet) (sender receiver : Account)
    (sessionId : SessionId) (amount : Amount) (signature : Bytes) (c : Channel)
    (r' : Registry BalanceSheet) : Prop where
  channel : r.channels.get? ⟨sender, receiver⟩ = some c
  voucher : S.verifyVoucher sender receiver c.nonce sessionId amount signature = true
  paid : r'.wealth sender + amount.val = r.wealth sender

/-- an account owns less after an operation only if it was a claim with a voucher of the account -/
theorem wealth_perform (S : SignatureScheme) {r : Registry BalanceSheet} (hf : r.Filed)
    (hw : r.worth < 2 ^ 128) {operation : Operation} {a : Account}
    (hloss : (r.perform S operation).2.wealth a < r.wealth a) :
    ∃ receiver sessionId amount signature c,
      operation = .claim a receiver sessionId amount signature ∧
      Vouched S r a receiver sessionId amount signature c (r.perform S operation).2 := by
  have hsum := (settled_perform S hf hw operation).wealth a
  obtain ⟨answer, r', hp, hout⟩ := exists_outcome S r operation
  rw [hp] at hsum hloss ⊢
  dsimp only at hsum hloss ⊢
  have hpaid : paidBy a operation answer ≠ 0 := by omega
  cases hout with
  | redeemed sender receiver sessionId amount signature c receipt r' h =>
    replace hsum : r'.wealth a + (if sender = a then amount.val else 0)
        = r.wealth a + (if receiver = a then amount.val else 0) := hsum
    by_cases hs : sender = a
    · subst hs
      have hr : receiver ≠ sender := by
        rintro rfl
        omega
      rw [if_pos rfl, if_neg hr] at hsum
      exact ⟨receiver, sessionId, amount, signature, c, rfl, h.found, h.verified, hsum⟩
    · exact absurd (if_neg hs) hpaid
  | refused operation refusal => exact absurd (paidBy_of_refused a operation refusal) hpaid
  | refusedDebit operation refusal => exact absurd (paidBy_of_refused a operation refusal) hpaid
  | opened | funded | closed | closedExpired | swept | tookEvents | drained =>
    exact absurd rfl hpaid

/-! ## Expired channels -/

theorem party_closeExpired {L : Type} [Ledger L] {r : Registry L} (hf : r.Filed)
    {caller : Account} {ends : Ends} {c : Channel} (hc : r.channels.get? ends = some c)
    (hchange : (r.closeExpired caller).2.channels.get? ends ≠ some c) :
    caller = c.sender ∨ caller = c.receiver := by
  have hkey : ends ∈ r.expiredEnds fun c => c.hasParty caller := by
    by_contra hnot
    exact hchange ((closeAll_of_notMem hf r.height hnot).1.channel.trans hc)
  obtain ⟨d, hd, hparty, -⟩ := (mem_expiredEnds hf _ _).mp hkey
  obtain rfl : d = c := Option.some.inj (hd.symm.trans hc)
  exact (d.hasParty_iff caller).mp hparty

end Registry
end PayChannel
