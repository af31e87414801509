import PayChannel.Decimal
import PayChannel.Hex

/-!
# Internet addresses

An address of version 4 is four decimal numbers with dots between them; one of version 6 is eight
groups of up to four hexadecimal digits with colons between them.  Two colons stand for a run of
zero groups, and the last two groups may be written as an address of version 4.

* `Address4.read`, `Address4.write`    version 4;
* `Address6.read`, `Address6.write`    version 6, the longest run of zeros written as two colons.
-/

namespace PayChannel.Net

open Ascii

def expectByte (b : UInt8) : Bytes → Option Bytes
  | c :: rest => if c = b then some rest else none
  | [] => none

/-! ## Version 4 -/

structure Address4 where
  first : Word 8
  second : Word 8
  third : Word 8
  fourth : Word 8
deriving DecidableEq

/-- one of the four numbers: at most three digits, and no zero before another digit -/
def readOctet (input : Bytes) : Option (Word 8 × Bytes) :=
  let (ds, rest) := Decimal.span input
  if ds = [] ∨ 3 < ds.length ∨ (ds.head? = some zero ∧ ds.length ≠ 1) then none
  else (Word.ofNat? (Decimal.value ds)).map fun w => (w, rest)

/-- a number after a dot -/
def readNextOctet (input : Bytes) : Option (Word 8 × Bytes) :=
  (expectByte dot input).bind readOctet

namespace Address4

def read (input : Bytes) : Option (Address4 × Bytes) := do
  let (first, rest) ← readOctet input
  let (second, rest) ← readNextOctet rest
  let (third, rest) ← readNextOctet rest
  let (fourth, rest) ← readNextOctet rest
  some (⟨first, second, third, fourth⟩, rest)

def write (a : Address4) : Bytes :=
  Decimal.digits a.first.val ++ dot :: Decimal.digits a.second.val ++
    dot :: Decimal.digits a.third.val ++ dot :: Decimal.digits a.fourth.val

end Address4

/-! ## Groups of version 6 -/

def fourDigits (g : Word 16) : Bytes :=
  [12, 8, 4, 0].map fun shift => Hex.digit (UInt8.ofNat (g.val >>> shift % 16))

def writeGroup (g : Word 16) : Bytes :=
  match (fourDigits g).dropWhile fun b => b = zero with
  | [] => [zero]
  | ds => ds

def writeGroups : List (Word 16) → Bytes
  | [] => []
  | [g] => writeGroup g
  | g :: gs => writeGroup g ++ colon :: writeGroups gs

def hexValue (ds : Bytes) : Nat :=
  ds.foldl (fun n b => 16 * n + ((Hex.digit? b).getD 0).toNat) 0

def readGroup (input : Bytes) : Option (Word 16 × Bytes) :=
  let isHex (b : UInt8) : Bool := (Hex.digit? b).isSome
  let ds := input.takeWhile isHex
  if ds = [] ∨ 4 < ds.length then none
  else (Word.ofNat? (hexValue ds)).map fun g => (g, input.dropWhile isHex)

/-- an address of version 4 as two groups -/
def Address4.groups (a : Address4) : List (Word 16) :=
  [Word.truncate (256 * a.first.val + a.second.val),
    Word.truncate (256 * a.third.val + a.fourth.val)]

def Address4.ofGroups (high low : Word 16) : Address4 :=
  ⟨Word.truncate (high.val / 256), Word.truncate high.val, Word.truncate (low.val / 256),
    Word.truncate low.val⟩

/-- the text of the next group: every group but the first stands after a colon -/
def nextGroup (isFirst : Bool) (input : Bytes) : Option Bytes :=
  if isFirst then some input else expectByte colon input

/-- reads up to `count` groups, as many as there are; an address of version 4 counts as two and ends
them, and whether one did is told with the groups -/
def readGroups : Nat → Bool → Bytes → List (Word 16) × Bool × Bytes
  | 0, _, input => ([], false, input)
  | count + 1, isFirst, input =>
    match if count = 0 then none else (nextGroup isFirst input).bind Address4.read with
    | some (a, rest) => (a.groups, true, rest)
    | none =>
      match (nextGroup isFirst input).bind readGroup with
      | none => ([], false, input)
      | some (g, rest) =>
        let (gs, dotted, rest) := readGroups count false rest
        (g :: gs, dotted, rest)

/-! ## Version 6 -/

structure Address6 where
  groups : List (Word 16)
  length_eq : groups.length = 8
deriving DecidableEq

namespace Address6

def ofGroups? (groups : List (Word 16)) : Option Address6 :=
  if h : groups.length = 8 then some ⟨groups, h⟩ else none

/-- reads an address; two colons stand for at least one group, and nothing dotted stands before
them -/
def read (input : Bytes) : Option (Address6 × Bytes) :=
  let (head, dotted, rest) := readGroups 8 true input
  if head.length = 8 then (ofGroups? head).map fun a => (a, rest)
  else if dotted then none
  else
    match (expectByte colon rest).bind (expectByte colon) with
    | none => none
    | some rest =>
      let (tail, _, rest) := readGroups (7 - head.length) true rest
      let zeros := List.replicate (8 - head.length - tail.length) Word.zero
      (ofGroups? (head ++ zeros ++ tail)).map fun a => (a, rest)

def leadingZeros (groups : List (Word 16)) : Nat :=
  (groups.takeWhile fun g => g.val = 0).length

/-- where the longest run of zeros starts, and its length; of two such runs the first counts -/
def longestRun : List (Word 16) → Nat × Nat
  | [] => (0, 0)
  | g :: gs =>
    let here := leadingZeros (g :: gs)
    let (start, length) := longestRun gs
    if length ≤ here then (0, here) else (start + 1, length)

/-- the last two groups of an address that stands for one of version 4 -/
def mapped? (a : Address6) : Option Address4 :=
  match a.groups.map (·.val), a.groups.drop 6 with
  | [0, 0, 0, 0, 0, 65535, _, _], [high, low] => some (Address4.ofGroups high low)
  | _, _ => none

def write (a : Address6) : Bytes :=
  match a.mapped? with
  | some v4 => colon :: colon :: writeGroups [Word.max 16] ++ colon :: v4.write
  | none =>
    let (start, length) := longestRun a.groups
    if 1 < length then
      writeGroups (a.groups.take start) ++
        colon :: colon :: writeGroups (a.groups.drop (start + length))
    else writeGroups a.groups

end Address6
end PayChannel.Net
