/-!
# Byte strings

A byte string is a list of bytes.  A number is written in a fixed count of bytes, lowest byte
first (`littleEndian`) or highest byte first (`bigEndian`), and read back by `ofLittleEndian` and
`ofBigEndian`.

* `length_littleEndian`, `length_bigEndian`    the count of bytes written is the count asked for;
* `ofLittleEndian_littleEndian`, `ofBigEndian_bigEndian`    reading undoes writing, as long as
  the number fits;
* `littleEndian_ofLittleEndian`, `bigEndian_ofBigEndian`    writing undoes reading.
-/

namespace PayChannel

abbrev Bytes := List UInt8

namespace Bytes

/-- the `width` lowest bytes of `n`, lowest first -/
def littleEndian : Nat → Nat → Bytes
  | 0, _ => []
  | width + 1, n => UInt8.ofNat n :: littleEndian width (n / 256)

/-- the `width` lowest bytes of `n`, highest first -/
def bigEndian (width n : Nat) : Bytes :=
  (littleEndian width n).reverse

def ofLittleEndian : Bytes → Nat
  | [] => 0
  | b :: rest => b.toNat + 256 * ofLittleEndian rest

def ofBigEndian (bytes : Bytes) : Nat :=
  ofLittleEndian bytes.reverse

/-- the first `count` pieces of `size` bytes each; a piece past the end of the string is short -/
def pieces (size : Nat) : Nat → Bytes → List Bytes
  | 0, _ => []
  | count + 1, bytes => bytes.take size :: pieces size count (bytes.drop size)

def ofString (text : String) : Bytes :=
  text.toUTF8.toList

def toString? (bytes : Bytes) : Option String :=
  String.fromUTF8? (ByteArray.mk bytes.toArray)

/-! ## Writing and reading numbers -/

theorem length_littleEndian (width n : Nat) : (littleEndian width n).length = width := by
  induction width generalizing n with
  | zero => rfl
  | succ width ih => rw [littleEndian, List.length_cons, ih]

theorem length_bigEndian (width n : Nat) : (bigEndian width n).length = width := by
  rw [bigEndian, List.length_reverse, length_littleEndian]

theorem ofLittleEndian_lt (bytes : Bytes) : ofLittleEndian bytes < Nat.pow 256 bytes.length := by
  induction bytes with
  | nil => exact Nat.one_pos
  | cons b rest ih =>
    have hb : b.toNat < 256 := b.toNat_lt
    have hp : Nat.pow 256 (rest.length + 1) = Nat.pow 256 rest.length * 256 := rfl
    rw [ofLittleEndian, List.length_cons, hp]
    omega

theorem ofBigEndian_lt (bytes : Bytes) : ofBigEndian bytes < Nat.pow 256 bytes.length := by
  have h := ofLittleEndian_lt bytes.reverse
  rwa [List.length_reverse] at h

theorem ofLittleEndian_littleEndian (width n : Nat) (h : n < Nat.pow 256 width) :
    ofLittleEndian (littleEndian width n) = n := by
  induction width generalizing n with
  | zero =>
    have h1 : Nat.pow 256 0 = 1 := rfl
    rw [littleEndian, ofLittleEndian]
    omega
  | succ width ih =>
    have hq : n / 256 < Nat.pow 256 width := by
      have hp : Nat.pow 256 (width + 1) = Nat.pow 256 width * 256 := rfl
      omega
    have hb : (UInt8.ofNat n).toNat = n % 256 := UInt8.toNat_ofNat' (n := n)
    rw [littleEndian, ofLittleEndian, ih _ hq, hb]
    omega

theorem littleEndian_ofLittleEndian (bytes : Bytes) :
    littleEndian bytes.length (ofLittleEndian bytes) = bytes := by
  induction bytes with
  | nil => rfl
  | cons b rest ih =>
    have hb : b.toNat < 256 := b.toNat_lt
    have hq : (b.toNat + 256 * ofLittleEndian rest) / 256 = ofLittleEndian rest := by omega
    have hr : UInt8.ofNat (b.toNat + 256 * ofLittleEndian rest) = b := by
      apply UInt8.toNat_inj.mp
      rw [UInt8.toNat_ofNat']
      omega
    rw [ofLittleEndian, List.length_cons, littleEndian, hq, hr, ih]

theorem ofBigEndian_bigEndian (width n : Nat) (h : n < Nat.pow 256 width) :
    ofBigEndian (bigEndian width n) = n := by
  rw [ofBigEndian, bigEndian, List.reverse_reverse, ofLittleEndian_littleEndian width n h]

theorem bigEndian_ofBigEndian (bytes : Bytes) :
    bigEndian bytes.length (ofBigEndian bytes) = bytes := by
  have h := littleEndian_ofLittleEndian bytes.reverse
  rw [List.length_reverse] at h
  rw [bigEndian, ofBigEndian, h, List.reverse_reverse]

end Bytes
end PayChannel
