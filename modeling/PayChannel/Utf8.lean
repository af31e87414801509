import PayChannel.Bytes

/-!
# Text from any bytes

Bytes that are no UTF-8 are shown all the same: the longest start of a character that breaks off,
or a byte that begins no character, is replaced by the replacement character.

* `decodeLossy`    the text.
-/

namespace PayChannel.Utf8

/-- what stands for bytes that spell no character -/
def replacement : Char := Char.ofNat 0xFFFD

/-- what a byte above 127 begins: how many bytes follow, the bounds of the first of them, and the
bits of the character so far -/
def lead? (b : UInt8) : Option (Nat × UInt8 × UInt8 × Nat) :=
  if 0xC2 ≤ b ∧ b ≤ 0xDF then some (1, 0x80, 0xBF, b.toNat % 32)
  else if b = 0xE0 then some (2, 0xA0, 0xBF, 0)
  else if b = 0xED then some (2, 0x80, 0x9F, 13)
  else if 0xE1 ≤ b ∧ b ≤ 0xEF then some (2, 0x80, 0xBF, b.toNat % 16)
  else if b = 0xF0 then some (3, 0x90, 0xBF, 0)
  else if 0xF1 ≤ b ∧ b ≤ 0xF3 then some (3, 0x80, 0xBF, b.toNat % 8)
  else if b = 0xF4 then some (3, 0x80, 0x8F, 4)
  else none

/-- the character that ends with `count` more bytes, the first of them between two bounds, or the
replacement character where they break off; and the bytes left -/
def follow : Nat → UInt8 → UInt8 → Nat → Bytes → Char × Bytes
  | 0, _, _, code, rest => (Char.ofNat code, rest)
  | _ + 1, _, _, _, [] => (replacement, [])
  | count + 1, low, high, code, b :: rest =>
    if low ≤ b ∧ b ≤ high then follow count 0x80 0xBF (64 * code + b.toNat % 64) rest
    else (replacement, b :: rest)

/-- the characters of at most `steps` characters' bytes -/
def charsLossy : Nat → Bytes → List Char
  | 0, _ => []
  | _ + 1, [] => []
  | steps + 1, b :: rest =>
    if b < 128 then Char.ofNat b.toNat :: charsLossy steps rest
    else
      match lead? b with
      | none => replacement :: charsLossy steps rest
      | some (count, low, high, code) =>
        let (c, rest) := follow count low high code rest
        c :: charsLossy steps rest

def decodeLossy (bytes : Bytes) : String :=
  String.ofList (charsLossy bytes.length bytes)

end PayChannel.Utf8
