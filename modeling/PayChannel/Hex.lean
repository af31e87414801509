import PayChannel.Ascii

/-!
# Hexadecimal text

Bytes are written as two lower-case digits each and read in either case.  Where a text may carry
the mark `0x`, every leading mark is dropped before the digits are read.

* `length_encode`    two digits per byte;
* `decode_encode`, `decodeSized_encode`    reading undoes writing;
* `dropMarks_encode`    a written text carries no mark;
* `length_of_decodeSized`    how many bytes an accepted text spells.
-/

namespace PayChannel

inductive HexError where
  /-- the count of digits is odd -/
  | oddLength
  /-- the count of digits is not the one asked for -/
  | wrongLength
  /-- the byte at this position is no digit -/
  | badDigit (byte : UInt8) (position : Nat)
deriving DecidableEq

namespace Hex

/-! ## Digits -/

def digit (n : UInt8) : UInt8 :=
  if n < 10 then 48 + n else 87 + n

def digit? (b : UInt8) : Option UInt8 :=
  if 48 ≤ b ∧ b ≤ 57 then some (b - 48)
  else if 97 ≤ b ∧ b ≤ 102 then some (b - 87)
  else if 65 ≤ b ∧ b ≤ 70 then some (b - 55)
  else none

/-! ## Writing -/

def encode (bytes : Bytes) : Bytes :=
  bytes.flatMap fun (b : UInt8) => [digit (b >>> 4), digit (b &&& 15)]

def text (bytes : Bytes) : String :=
  Ascii.text (encode bytes)

/-! ## Reading -/

/-- the bytes that pairs of digits spell, the first digit standing at `position` -/
def decodePairs (position : Nat) : Bytes → Except HexError Bytes
  | [] => .ok []
  | [_] => .error .oddLength
  | a :: b :: rest =>
    match digit? a with
    | none => .error (.badDigit a position)
    | some high =>
      match digit? b with
      | none => .error (.badDigit b (position + 1))
      | some low =>
        match decodePairs (position + 2) rest with
        | .error e => .error e
        | .ok bytes => .ok ((high <<< 4 ||| low) :: bytes)

def decode (digits : Bytes) : Except HexError Bytes :=
  if digits.length % 2 = 1 then .error .oddLength else decodePairs 0 digits

/-- the bytes that a text spells, if they are `size` in number -/
def decodeSized (size : Nat) (digits : Bytes) : Except HexError Bytes :=
  if digits.length % 2 = 1 then .error .oddLength
  else if digits.length / 2 ≠ size then .error .wrongLength
  else decodePairs 0 digits

def dropMarks : Bytes → Bytes
  | a :: b :: rest => if a = 48 ∧ b = 120 then dropMarks rest else a :: b :: rest
  | short => short

/-! ## Writing and reading -/

/-- what holds of the first 256 numbers holds of every byte -/
theorem of_small {P : UInt8 → Prop} (h : ∀ n, n < 256 → P (UInt8.ofNat n)) (b : UInt8) : P b := by
  have e : UInt8.ofNat b.toNat = b := UInt8.ofNat_toNat
  rw [← e]
  exact h b.toNat b.toNat_lt

theorem digit?_digit_high (b : UInt8) : digit? (digit (b >>> 4)) = some (b >>> 4) :=
  of_small (P := fun b => digit? (digit (b >>> 4)) = some (b >>> 4)) (by decide +kernel) b

theorem digit?_digit_low (b : UInt8) : digit? (digit (b &&& 15)) = some (b &&& 15) :=
  of_small (P := fun b => digit? (digit (b &&& 15)) = some (b &&& 15)) (by decide +kernel) b

theorem join_halves (b : UInt8) : (b >>> 4) <<< 4 ||| (b &&& 15) = b :=
  of_small (P := fun b => (b >>> 4) <<< 4 ||| (b &&& 15) = b) (by decide +kernel) b

theorem digit_ne_mark (b : UInt8) : digit (b &&& 15) ≠ 120 :=
  of_small (P := fun b => digit (b &&& 15) ≠ 120) (by decide +kernel) b

theorem encode_cons (b : UInt8) (rest : Bytes) :
    encode (b :: rest) = digit (b >>> 4) :: digit (b &&& 15) :: encode rest := rfl

theorem length_encode (bytes : Bytes) : (encode bytes).length = 2 * bytes.length := by
  induction bytes with
  | nil => rfl
  | cons b rest ih =>
    rw [encode_cons, List.length_cons, List.length_cons, List.length_cons, ih]
    omega

theorem decodePairs_encode (position : Nat) (bytes : Bytes) :
    decodePairs position (encode bytes) = .ok bytes := by
  induction bytes generalizing position with
  | nil => rfl
  | cons b rest ih =>
    rw [encode_cons, decodePairs, digit?_digit_high, digit?_digit_low, ih]
    simp only [join_halves]

theorem decode_encode (bytes : Bytes) : decode (encode bytes) = .ok bytes := by
  have h : ¬ (encode bytes).length % 2 = 1 := by
    rw [length_encode]
    omega
  rw [decode, if_neg h, decodePairs_encode]

theorem decodeSized_encode (bytes : Bytes) :
    decodeSized bytes.length (encode bytes) = .ok bytes := by
  have h1 : ¬ (encode bytes).length % 2 = 1 := by
    rw [length_encode]
    omega
  have h2 : ¬ (encode bytes).length / 2 ≠ bytes.length := by
    rw [length_encode]
    omega
  rw [decodeSized, if_neg h1, if_neg h2, decodePairs_encode]

theorem dropMarks_encode (bytes : Bytes) : dropMarks (encode bytes) = encode bytes := by
  cases bytes with
  | nil => rfl
  | cons b rest =>
    rw [encode_cons, dropMarks, if_neg]
    exact fun h => digit_ne_mark b h.2

theorem length_of_decodePairs (position : Nat) (digits bytes : Bytes)
    (h : decodePairs position digits = .ok bytes) : digits.length = 2 * bytes.length := by
  fun_induction decodePairs position digits generalizing bytes with
  | case1 => cases h; rfl
  | case6 position a b rest high ha low hb tail ht ih =>
    cases h
    have := ih tail ht
    simp only [List.length_cons]
    omega
  | _ => cases h

theorem length_of_decodeSized (size : Nat) (digits bytes : Bytes)
    (h : decodeSized size digits = .ok bytes) :
    bytes.length = size ∧ digits.length = 2 * size := by
  unfold decodeSized at h
  split at h
  · cases h
  · split at h
    · cases h
    · have := length_of_decodePairs 0 digits bytes h
      omega

end Hex

namespace HexError

/-- whether a character of the first 256 has a visible form of its own: neither a control
character, nor the no-break space, nor the soft hyphen -/
def isVisible (b : UInt8) : Bool :=
  32 ≤ b && b ≠ 127 && !(128 ≤ b && b ≤ 160) && b ≠ 173

/-- a byte as a quoted character, in the form that a programmer writes it in -/
def quoted (b : UInt8) : String :=
  let body :=
    if b = 0 then "\\0"
    else if b = 9 then "\\t"
    else if b = 10 then "\\n"
    else if b = 13 then "\\r"
    else if b = 39 then "\\'"
    else if b = 92 then "\\\\"
    else if isVisible b then String.singleton (Char.ofNat b.toNat)
    else "\\u\x7b" ++ String.ofList (Nat.toDigits 16 b.toNat) ++ "\x7d"
  "'" ++ body ++ "'"

def message : HexError → String
  | oddLength => "Odd number of digits"
  | wrongLength => "Invalid string length"
  | badDigit byte position =>
    "Invalid character " ++ quoted byte ++ " at position " ++ toString position

end HexError
end PayChannel
