import PayChannel.Ascii
import PayChannel.Word

/-!
# Decimal text

Numbers are written without leading zeros.  A list of digits is read from the left.

* `value_digits`    reading undoes writing;
* `isDigit_of_mem_digits`, `digits_ne_nil`    what is written is digits, and at least one;
* `head_digits`    only the number zero is written with a leading zero.
-/

namespace PayChannel.Decimal

open Ascii

def digit (n : Nat) : UInt8 :=
  UInt8.ofNat (48 + n % 10)

/-- puts the digits of `n` before `rest`, in at most `count` steps -/
def digitsBefore : Nat → Nat → Bytes → Bytes
  | 0, _, rest => rest
  | count + 1, n, rest =>
    if n < 10 then digit n :: rest else digitsBefore count (n / 10) (digit n :: rest)

def digits (n : Nat) : Bytes :=
  digitsBefore (n + 1) n []

def text (n : Nat) : String :=
  Ascii.text (digits n)

def push (n : Nat) (b : UInt8) : Nat :=
  10 * n + (b.toNat - 48)

def value (ds : Bytes) : Nat :=
  ds.foldl push 0

def span (input : Bytes) : Bytes × Bytes :=
  (input.takeWhile isDigit, input.dropWhile isDigit)

/-- a number written with digits only or with a plus sign before them, leading zeros allowed, that
fits a word -/
def parseWord? (bits : Nat) (input : Bytes) : Option (Word bits) :=
  let ds := match input with
    | b :: rest => if b = plus then rest else input
    | [] => []
  if ds ≠ [] ∧ ds.all isDigit then Word.ofNat? (value ds) else none

/-! ## Writing and reading -/

theorem toNat_digit (n : Nat) : (digit n).toNat = 48 + n % 10 := by
  rw [digit, UInt8.toNat_ofNat']
  omega

theorem isDigit_digit (n : Nat) : isDigit (digit n) = true := by
  have h := toNat_digit n
  rw [isDigit, Bool.and_eq_true, decide_eq_true_iff, decide_eq_true_iff, UInt8.le_iff_toNat_le,
    UInt8.le_iff_toNat_le, h]
  have h0 : zero.toNat = 48 := rfl
  have h9 : nine.toNat = 57 := rfl
  omega

theorem digitsBefore_eq (count n : Nat) (rest : Bytes) :
    digitsBefore count n rest = digitsBefore count n [] ++ rest := by
  induction count generalizing n rest with
  | zero => rfl
  | succ count ih =>
    unfold digitsBefore
    split
    · rfl
    · rw [ih (n / 10) (digit n :: rest), ih (n / 10) [digit n], List.append_assoc]
      rfl

theorem value_append_digit (ds : Bytes) (n : Nat) :
    value (ds ++ [digit n]) = 10 * value ds + n % 10 := by
  rw [value, List.foldl_append, List.foldl_cons, List.foldl_nil, push, toNat_digit, value]
  omega

theorem value_digitsBefore (count n : Nat) (h : n < count) :
    value (digitsBefore count n []) = n := by
  induction count generalizing n with
  | zero => exact absurd h (Nat.not_lt_zero n)
  | succ count ih =>
    unfold digitsBefore
    split
    · rename_i hn
      have := value_append_digit [] n
      rw [List.nil_append] at this
      rw [this, value, List.foldl_nil]
      omega
    · rename_i hn
      rw [digitsBefore_eq, value_append_digit, ih (n / 10) (by omega)]
      omega

theorem value_digits (n : Nat) : value (digits n) = n :=
  value_digitsBefore (n + 1) n (Nat.lt_succ_self n)

theorem isDigit_of_mem_digitsBefore (count n : Nat) (rest : Bytes)
    (hr : ∀ b, b ∈ rest → isDigit b = true) (b : UInt8) (h : b ∈ digitsBefore count n rest) :
    isDigit b = true := by
  induction count generalizing n rest with
  | zero => exact hr b h
  | succ count ih =>
    have hr' : ∀ c, c ∈ digit n :: rest → isDigit c = true := by
      intro c hc
      rcases List.mem_cons.mp hc with hc | hc
      · exact hc ▸ isDigit_digit n
      · exact hr c hc
    unfold digitsBefore at h
    split at h
    · exact hr' b h
    · exact ih (n / 10) (digit n :: rest) hr' h

theorem isDigit_of_mem_digits (n : Nat) (b : UInt8) (h : b ∈ digits n) : isDigit b = true :=
  isDigit_of_mem_digitsBefore (n + 1) n [] (fun _ hc => nomatch hc) b h

theorem digitsBefore_ne_nil (count n : Nat) (rest : Bytes) :
    digitsBefore (count + 1) n rest ≠ [] := by
  induction count generalizing n rest with
  | zero =>
    unfold digitsBefore digitsBefore
    split <;> exact List.cons_ne_nil _ _
  | succ count ih =>
    unfold digitsBefore
    split
    · exact List.cons_ne_nil _ _
    · exact ih (n / 10) (digit n :: rest)

theorem digits_ne_nil (n : Nat) : digits n ≠ [] :=
  digitsBefore_ne_nil n n []

theorem head_digitsBefore (count n : Nat) (h : n < count) (hn : n ≠ 0) (rest : Bytes) :
    ∃ b tail, digitsBefore count n rest = b :: tail ∧ b ≠ zero := by
  induction count generalizing n rest with
  | zero => exact absurd h (Nat.not_lt_zero n)
  | succ count ih =>
    unfold digitsBefore
    split
    · rename_i hlt
      refine ⟨digit n, rest, rfl, fun he => hn ?_⟩
      have := congrArg UInt8.toNat he
      rw [toNat_digit] at this
      have h0 : zero.toNat = 48 := rfl
      omega
    · exact ih (n / 10) (by omega) (by omega) (digit n :: rest)

theorem head_digits (n : Nat) (hn : n ≠ 0) : ∃ b tail, digits n = b :: tail ∧ b ≠ zero :=
  head_digitsBefore (n + 1) n (Nat.lt_succ_self n) hn []

theorem span_append (ds rest : Bytes) (hd : ∀ b, b ∈ ds → isDigit b = true)
    (hr : ∀ b tail, rest = b :: tail → isDigit b = false) : span (ds ++ rest) = (ds, rest) := by
  have hstop : rest.takeWhile isDigit = [] ∧ rest.dropWhile isDigit = rest := by
    cases rest with
    | nil => exact ⟨rfl, rfl⟩
    | cons b tail =>
      have := hr b tail rfl
      exact ⟨by rw [List.takeWhile_cons, this]; rfl, by rw [List.dropWhile_cons, this]; rfl⟩
  rw [span, List.takeWhile_append_of_pos hd, List.dropWhile_append_of_pos hd, hstop.1, hstop.2,
    List.append_nil]

end PayChannel.Decimal
