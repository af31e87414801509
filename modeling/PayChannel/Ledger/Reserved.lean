import PayChannel.Ledger

/-!
# Ledgers with a hidden reserve

A ledger that reports the free balances of another one but refuses some debits which these would
cover: every debit while it is frozen, and otherwise each debit that would cut into a reserve.
-/

namespace PayChannel

/-- a ledger behind a freeze and a reserve -/
structure Reserved (L : Type) where
  inner : L
  frozen : Bool
  reserve : Amount

namespace Reserved

variable {L : Type} [Ledger L]

/-- a debit of the inner ledger, unless the freeze or the reserve forbids it -/
def debit (r : Reserved L) (account : Account) (amount : Amount) : Bool × Reserved L :=
  if r.frozen || (Ledger.free r.inner account).satSub amount < r.reserve then (false, r)
  else
    let (made, inner) := Ledger.debit r.inner account amount
    (made, { r with inner })

instance : Ledger (Reserved L) where
  free r := Ledger.free r.inner
  debit := debit
  credit r account amount := { r with inner := Ledger.credit r.inner account amount }
  height r := Ledger.height r.inner

instance [LawfulLedger L] : LawfulLedger (Reserved L) where
  debit_refused r a amount h := by
    change (r.debit a amount).2 = r
    change (r.debit a amount).1 = false at h
    unfold debit at h ⊢
    by_cases hr : (r.frozen || (Ledger.free r.inner a).satSub amount < r.reserve) = true
    · rw [if_pos hr]
    · rw [if_neg hr] at h ⊢
      have hi := LawfulLedger.debit_refused r.inner a amount h
      exact congrArg (fun inner => { r with inner }) hi

end Reserved
end PayChannel
