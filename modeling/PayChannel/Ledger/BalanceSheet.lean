import PayChannel.Ledger

/-!
# Balance sheets

The plain ledger: a free balance per account, and a height that something outside moves forward.
A debit is made exactly if the free balance covers it; a credit stops at the largest amount.

* `free_debit`, `free_credit`    what the operations do to free balances;
* `debit_made_iff`    when a debit is made.
-/

namespace PayChannel

structure BalanceSheet where
  balances : Table Account Amount
  height : Height

namespace BalanceSheet

/-- the sheet at height zero with the balances listed; a later entry of an account wins -/
def ofList (balances : List (Account × Amount)) : BalanceSheet :=
  ⟨Table.ofList balances, Word.zero⟩

def empty : BalanceSheet :=
  ofList []

def free (s : BalanceSheet) (account : Account) : Amount :=
  (s.balances.get? account).getD Word.zero

def setBalance (s : BalanceSheet) (account : Account) (amount : Amount) : BalanceSheet :=
  { s with balances := s.balances.insert account amount }

/-- takes an amount from an account, if the free balance covers it -/
def debit (s : BalanceSheet) (account : Account) (amount : Amount) : Bool × BalanceSheet :=
  match (s.free account).checkedSub? amount with
  | none => (false, s)
  | some rest => (true, s.setBalance account rest)

def credit (s : BalanceSheet) (account : Account) (amount : Amount) : BalanceSheet :=
  s.setBalance account ((s.free account).satAdd amount)

def advance (s : BalanceSheet) (blocks : Height) : BalanceSheet :=
  { s with height := s.height.satAdd blocks }

/-- not before a height -/
def advanceTo (s : BalanceSheet) (height : Height) : BalanceSheet :=
  { s with height := s.height.maxOf height }

def totalIssuance (s : BalanceSheet) : Nat :=
  s.balances.values.foldr (fun amount total => amount.val + total) 0

instance : Ledger BalanceSheet where
  free := free
  debit := debit
  credit := credit
  height := height

/-! ## What the operations do to free balances -/

theorem free_setBalance (s : BalanceSheet) (a b : Account) (amount : Amount) :
    (s.setBalance a amount).free b = if b = a then amount else s.free b := by
  unfold free setBalance
  rw [Table.get?_insert]
  split <;> rfl

theorem free_credit (s : BalanceSheet) (a b : Account) (amount : Amount) :
    (s.credit a amount).free b = if b = a then (s.free a).satAdd amount else s.free b :=
  free_setBalance s a b _

theorem debit_made_iff (s : BalanceSheet) (a : Account) (amount : Amount) :
    (s.debit a amount).1 = true ↔ amount.val ≤ (s.free a).val := by
  by_cases h : amount.val ≤ (s.free a).val
  · have hc : (s.free a).checkedSub? amount = some ((s.free a).satSub amount) := if_pos h
    rw [debit, hc]
    exact iff_of_true rfl h
  · have hc : (s.free a).checkedSub? amount = none := if_neg h
    rw [debit, hc]
    exact iff_of_false Bool.false_ne_true h

theorem free_debit (s : BalanceSheet) (a b : Account) (amount : Amount)
    (h : amount.val ≤ (s.free a).val) :
    ((s.debit a amount).2).free b = if b = a then (s.free a).satSub amount else s.free b := by
  have hc : (s.free a).checkedSub? amount = some ((s.free a).satSub amount) :=
    (Word.checkedSub?_eq_some_iff _ _ _).mpr ⟨h, rfl⟩
  unfold debit
  rw [hc]
  exact free_setBalance s a b _

theorem height_debit (s : BalanceSheet) (a : Account) (amount : Amount) :
    ((s.debit a amount).2).height = s.height := by
  unfold debit
  split <;> rfl

instance : LawfulLedger BalanceSheet where
  debit_refused s a amount h := by
    change (s.debit a amount).2 = s
    change (s.debit a amount).1 = false at h
    unfold debit at h ⊢
    split at h
    · rfl
    · cases h

instance : SteadyLedger BalanceSheet where
  height_debit s a amount := by
    have same_height : (s.debit a amount).2.height.val = s.height.val :=
      congrArg Word.val (height_debit s a amount)
    exact Nat.le_of_eq same_height.symm
  height_credit s _ _ := Nat.le_refl s.height.val

end BalanceSheet
end PayChannel
