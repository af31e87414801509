/-!
# Numbers of a fixed width

A word of `bits` bits is a natural number below `2^bits`.  A sum of words stops at the largest
word (`satAdd`) or is refused (`checkedAdd?`); a difference stops at zero (`satSub`) or is refused
(`checkedSub?`).  Nothing wraps around.

* `val_satAdd`, `val_satSub`    what the stopping operations compute, on natural numbers;
* `checkedAdd?_eq_some_iff`, `checkedSub?_eq_some_iff`    when the refusing ones answer.
-/

namespace PayChannel

/-- a natural number below `2^bits` -/
@[ext]
structure Word (bits : Nat) where
  val : Nat
  isLt : val < Nat.pow 2 bits
deriving DecidableEq

/-- amounts of money -/
abbrev Amount := Word 128

/-- block heights, and spans of blocks -/
abbrev Height := Word 64

/-- generations of a channel -/
abbrev Nonce := Word 64

/-- session numbers of vouchers -/
abbrev SessionId := Word 32

/-- points in time and spans of time, in milliseconds -/
abbrev Millis := Word 64

namespace Word

variable {bits : Nat}

def max (bits : Nat) : Word bits :=
  ⟨Nat.pow 2 bits - 1, Nat.sub_lt (Nat.two_pow_pos bits) Nat.one_pos⟩

def zero : Word bits :=
  ⟨0, Nat.two_pow_pos bits⟩

def one : Word (bits + 1) :=
  ⟨1, Nat.one_lt_two_pow (Nat.succ_ne_zero bits)⟩

instance : Inhabited (Word bits) := ⟨zero⟩

def ofNat? (n : Nat) : Option (Word bits) :=
  if h : n < Nat.pow 2 bits then some ⟨n, h⟩ else none

/-- the number `n`, or the largest word if `n` does not fit -/
def clip (n : Nat) : Word bits :=
  if h : n < Nat.pow 2 bits then ⟨n, h⟩ else max bits

/-- the number `n` without the bits that do not fit -/
def truncate (n : Nat) : Word bits :=
  ⟨n % Nat.pow 2 bits, Nat.mod_lt n (Nat.two_pow_pos bits)⟩

/-- the sum, stopping at the largest word -/
def satAdd (a b : Word bits) : Word bits :=
  clip (a.val + b.val)

def satMul (a b : Word bits) : Word bits :=
  clip (a.val * b.val)

def satSub (a b : Word bits) : Word bits :=
  ⟨a.val - b.val, Nat.lt_of_le_of_lt (Nat.sub_le a.val b.val) a.isLt⟩

def checkedAdd? (a b : Word bits) : Option (Word bits) :=
  ofNat? (a.val + b.val)

def checkedSub? (a b : Word bits) : Option (Word bits) :=
  if b.val ≤ a.val then some (satSub a b) else none

def distance (a b : Word bits) : Nat :=
  (a.val - b.val) + (b.val - a.val)

instance : LE (Word bits) := ⟨fun a b => a.val ≤ b.val⟩
instance : LT (Word bits) := ⟨fun a b => a.val < b.val⟩
instance (a b : Word bits) : Decidable (a ≤ b) := inferInstanceAs (Decidable (a.val ≤ b.val))
instance (a b : Word bits) : Decidable (a < b) := inferInstanceAs (Decidable (a.val < b.val))

def maxOf (a b : Word bits) : Word bits :=
  if a ≤ b then b else a

/-! ## What the operations compute -/

theorem le_iff (a b : Word bits) : a ≤ b ↔ a.val ≤ b.val := Iff.rfl

theorem lt_iff (a b : Word bits) : a < b ↔ a.val < b.val := Iff.rfl

@[simp] theorem val_zero : (zero : Word bits).val = 0 := rfl

@[simp] theorem val_one : (one : Word (bits + 1)).val = 1 := rfl

theorem val_le_max (a : Word bits) : a.val ≤ Nat.pow 2 bits - 1 :=
  Nat.le_sub_one_of_lt a.isLt

theorem ofNat?_val (a : Word bits) : ofNat? a.val = some a :=
  dif_pos a.isLt

theorem ofNat?_eq_some_iff (n : Nat) (a : Word bits) : ofNat? n = some a ↔ n = a.val := by
  constructor
  · intro h
    unfold ofNat? at h
    split at h
    · cases h
      rfl
    · cases h
  · rintro rfl
    exact ofNat?_val a

theorem val_clip (n : Nat) : (clip n : Word bits).val = min n (Nat.pow 2 bits - 1) := by
  unfold clip
  split
  · rename_i h
    exact (Nat.min_eq_left (Nat.le_sub_one_of_lt h)).symm
  · rename_i h
    exact (Nat.min_eq_right (Nat.le_trans (Nat.sub_le _ 1) (Nat.le_of_not_lt h))).symm

theorem clip_val (a : Word bits) : clip a.val = a :=
  dif_pos a.isLt

theorem val_truncate (n : Nat) : (truncate n : Word bits).val = n % Nat.pow 2 bits := rfl

theorem val_satAdd (a b : Word bits) :
    (satAdd a b).val = min (a.val + b.val) (Nat.pow 2 bits - 1) :=
  val_clip _

theorem val_satMul (a b : Word bits) :
    (satMul a b).val = min (a.val * b.val) (Nat.pow 2 bits - 1) :=
  val_clip _

theorem val_satSub (a b : Word bits) : (satSub a b).val = a.val - b.val := rfl

theorem checkedAdd?_eq_some_iff (a b c : Word bits) :
    checkedAdd? a b = some c ↔ a.val + b.val = c.val :=
  ofNat?_eq_some_iff _ c

theorem checkedSub?_eq_some_iff (a b c : Word bits) :
    checkedSub? a b = some c ↔ b.val ≤ a.val ∧ c.val = a.val - b.val := by
  unfold checkedSub?
  split
  · rename_i h
    constructor
    · intro e
      cases e
      exact ⟨h, rfl⟩
    · rintro ⟨_, e⟩
      exact congrArg some (Word.ext e.symm)
  · rename_i h
    constructor
    · intro e
      cases e
    · exact fun e => absurd e.1 h

theorem val_maxOf (a b : Word bits) : (maxOf a b).val = Nat.max a.val b.val := by
  unfold maxOf
  split
  · rename_i h
    exact (Nat.max_eq_right h).symm
  · rename_i h
    exact (Nat.max_eq_left (Nat.le_of_lt (Nat.lt_of_not_le h))).symm

end Word
end PayChannel
