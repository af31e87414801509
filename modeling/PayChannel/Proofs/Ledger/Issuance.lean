import Mathlib
import PayChannel.Node.Config
import PayChannel.Proofs.Table.Total

/-!
# All free balances together

The total issuance of a balance sheet is the sum of its balances.  As long as a sum stays below
`2^128`, a credit does not stop at the largest amount, and a debit takes off what it says.

* `totalIssuance_credit`, `totalIssuance_debit`    what money coming and going does to the sum;
* `free_le_totalIssuance`    no account has more than all together;
* `totalIssuance_service_lt`    a configuration cannot issue more than fits in an amount.
-/

set_option linter.unusedSectionVars false

namespace PayChannel

theorem Amount.val_lt (x : Amount) : x.val < 2 ^ 128 := x.isLt

theorem Amount.val_satAdd_of_lt {x y : Amount} (h : x.val + y.val < 2 ^ 128) :
    (x.satAdd y).val = x.val + y.val := by
  rw [Word.val_satAdd]
  exact Nat.min_eq_left (Nat.le_sub_one_of_lt h)

namespace BalanceSheet

variable (s : BalanceSheet) (a b : Account) (x : Amount)

theorem totalIssuance_eq : s.totalIssuance = s.balances.total Word.val := by
  unfold totalIssuance Table.values Table.total Entries.total
  induction s.balances.entries with
  | nil => rfl
  | cons e rest ih =>
    rw [List.map_cons, List.foldr_cons, ih, List.map_cons, List.sum_cons]

theorem weightAt_balances : s.balances.weightAt Word.val a = (s.free a).val := by
  unfold free
  cases h : s.balances.get? a with
  | none => exact Table.weightAt_of_none _ h
  | some y => exact Table.weightAt_of_get? _ h

theorem free_le_totalIssuance : (s.free a).val ≤ s.totalIssuance := by
  rw [totalIssuance_eq, ← weightAt_balances]
  exact Table.weightAt_le_total s.balances Word.val a

theorem totalIssuance_setBalance :
    (s.setBalance a x).totalIssuance + (s.free a).val = s.totalIssuance + x.val := by
  rw [totalIssuance_eq, totalIssuance_eq, ← weightAt_balances]
  exact Table.total_insert s.balances Word.val a x

theorem totalIssuance_credit (h : (s.free a).val + x.val < 2 ^ 128) :
    (s.credit a x).totalIssuance = s.totalIssuance + x.val := by
  have hset := s.totalIssuance_setBalance a ((s.free a).satAdd x)
  rw [Amount.val_satAdd_of_lt h] at hset
  show (s.setBalance a ((s.free a).satAdd x)).totalIssuance = _
  omega

theorem val_free_credit (h : (s.free a).val + x.val < 2 ^ 128) :
    ((s.credit a x).free b).val = (s.free b).val + if b = a then x.val else 0 := by
  rw [free_credit]
  by_cases hb : b = a
  · rw [if_pos hb, if_pos hb, hb, Amount.val_satAdd_of_lt h]
  · rw [if_neg hb, if_neg hb, Nat.add_zero]

variable {s a x}

theorem totalIssuance_debit {s' : BalanceSheet} (h : s.debit a x = (true, s')) :
    s'.totalIssuance + x.val = s.totalIssuance := by
  have hle : x.val ≤ (s.free a).val := (debit_made_iff s a x).mp (congrArg Prod.fst h)
  have hset := s.totalIssuance_setBalance a ((s.free a).satSub x)
  have hs' : s' = s.setBalance a ((s.free a).satSub x) := by
    have hc : (s.free a).checkedSub? x = some ((s.free a).satSub x) := if_pos hle
    rw [debit, hc] at h
    exact (Prod.ext_iff.mp h).2.symm
  rw [hs']
  rw [Word.val_satSub] at hset
  omega

theorem val_free_debit {s' : BalanceSheet} (h : s.debit a x = (true, s')) (b : Account) :
    (s'.free b).val + (if b = a then x.val else 0) = (s.free b).val := by
  have hle : x.val ≤ (s.free a).val := (debit_made_iff s a x).mp (congrArg Prod.fst h)
  have hfree := free_debit s a b x hle
  rw [h] at hfree
  rw [hfree]
  by_cases hb : b = a
  · rw [if_pos hb, if_pos hb, hb, Word.val_satSub]
    omega
  · rw [if_neg hb, if_neg hb, Nat.add_zero]

/-! ## What a sheet starts with -/

theorem totalIssuance_foldl_le (m : Nat) (balances : List (Account × Amount))
    (h : ∀ e ∈ balances, e.2.val ≤ m) (t : Table Account Amount) :
    (balances.foldl (fun t e => t.insert e.1 e.2) t).total Word.val
      ≤ t.total Word.val + balances.length * m := by
  induction balances generalizing t with
  | nil => exact Nat.le_add_right _ _
  | cons e rest ih =>
    have hrest := ih (fun e' he' => h e' (List.mem_cons_of_mem _ he')) (t.insert e.1 e.2)
    have hins := t.total_insert Word.val e.1 e.2
    have he := h e List.mem_cons_self
    rw [List.foldl_cons, List.length_cons, Nat.succ_mul]
    omega

/-- a node starts with less than fits in an amount, if it lists fewer than `2^64` accounts -/
theorem totalIssuance_service_lt (c : Config) (h : c.genesis.length < 2 ^ 64) :
    c.service.registry.ledger.totalIssuance < 2 ^ 128 := by
  show (BalanceSheet.ofList c.balances).totalIssuance < 2 ^ 128
  have hle : ∀ e ∈ c.balances, e.2.val ≤ 2 ^ 64 - 1 := by
    intro e he
    obtain ⟨g, _, rfl⟩ := List.mem_map.mp he
    exact Nat.le_sub_one_of_lt g.balance.isLt
  have hlen : c.balances.length = c.genesis.length := List.length_map _
  have hsum := totalIssuance_foldl_le (2 ^ 64 - 1) c.balances hle Table.empty
  rw [totalIssuance_eq]
  show (Table.ofList c.balances).total Word.val < 2 ^ 128
  rw [Table.total_empty, hlen] at hsum
  unfold Table.ofList
  have hmul : c.genesis.length * (2 ^ 64 - 1) ≤ (2 ^ 64 - 1) * (2 ^ 64 - 1) :=
    Nat.mul_le_mul_right _ (Nat.le_sub_one_of_lt h)
  omega

end BalanceSheet
end PayChannel
