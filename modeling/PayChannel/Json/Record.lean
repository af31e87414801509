import PayChannel.Json.Kind

/-!
# JSON: records

A record has a layout: its fields in order, each with a name and a kind.  It is written as an
object with the fields in that order, and read from an object with the fields in any order, each
exactly once and among any others, or from a list of the values in the order of the layout.

* `Record`    what makes a type a record;
* `read`, `write`    one record;
* `readList`, `writeList`    a list of records;
* `decode`, `decodeStart`    a whole text, or the record that a text starts with.
-/

namespace PayChannel.Json

open Ascii

/-- the fields of a record in order -/
abbrev Layout := List (String × Kind)

abbrev Values : Layout → Type
  | [] => Unit
  | field :: fields => field.2.Value × Values fields

abbrev Slots : Layout → Type
  | [] => Unit
  | field :: fields => Option field.2.Value × Slots fields

/-- a type whose values are records -/
class Record (α : Type) where
  layout : Layout
  values : α → Values layout
  ofValues : Values layout → α
  ofValues_values : ∀ a, ofValues (values a) = a

/-! ## Writing -/

/-- the members of an object, each after a comma -/
def writeMembers : (layout : Layout) → Values layout → Bytes
  | [], _ => []
  | (name, kind) :: fields, (v, vs) =>
    comma :: writeQuoted (Bytes.ofString name) ++ colon :: kind.write v ++ writeMembers fields vs

/-- members in braces, without the comma before the first one -/
def writeObject (members : Bytes) : Bytes :=
  openBrace :: members.drop 1 ++ [closeBrace]

def write {α : Type} [Record α] (a : α) : Bytes :=
  writeObject (writeMembers (Record.layout α) (Record.values a))

def writeList {α : Type} [Record α] (records : List α) : Bytes :=
  openBracket :: (records.flatMap fun a => comma :: write a).drop 1 ++ [closeBracket]

/-! ## Reading -/

def readColon (input : Bytes) : Except Flaw Bytes :=
  match skipBlanks input with
  | [] => .error .ended
  | b :: rest => if b = colon then .ok rest else .error .malformed

def noSlots : (layout : Layout) → Slots layout
  | [] => ()
  | _ :: fields => (none, noSlots fields)

def allSlots? : (layout : Layout) → Slots layout → Option (Values layout)
  | [], _ => some ()
  | _ :: fields, (slot, slots) =>
    match slot, allSlots? fields slots with
    | some v, some vs => some (v, vs)
    | _, _ => none

/-- reads the value of a member into the slot of its name, the text standing after the name -/
def readMember : (layout : Layout) → Slots layout → (name : Bytes) → Bytes → Scanned (Slots layout)
  | [], _, name, input =>
    if !isText name then .error .malformed
    else
      match readColon input with
      | .error flaw => .error flaw
      | .ok rest =>
        match skipValue rest with
        | .error flaw => .error flaw
        | .ok rest => .ok ((), rest)
  | (field, kind) :: fields, (slot, slots), name, input =>
    if name = Bytes.ofString field then
      match slot with
      | some _ => .error .unfit
      | none =>
        match readColon input with
        | .error flaw => .error flaw
        | .ok rest =>
          match kind.read rest with
          | .error flaw => .error flaw
          | .ok (v, rest) => .ok ((some v, slots), rest)
    else
      match readMember fields slots name input with
      | .error flaw => .error flaw
      | .ok (slots, rest) => .ok ((slot, slots), rest)

/-- the start of the next member, after its opening quote; nothing at the end of the object -/
def nextMember (isFirst : Bool) (input : Bytes) : Except Flaw (Option Bytes × Bytes) :=
  match skipBlanks input with
  | [] => .error .ended
  | b :: rest =>
    if b = closeBrace then .ok (none, rest)
    else if isFirst then if b = quote then .ok (some rest, rest) else .error .malformed
    else if b = comma then
      match skipBlanks rest with
      | [] => .error .ended
      | c :: rest => if c = quote then .ok (some rest, rest) else .error .malformed
    else .error .malformed

/-- reads members up to the closing brace, at most `steps` of them -/
def readMembers (layout : Layout) : Nat → Bool → Slots layout → Bytes → Scanned (Values layout)
  | 0, _, _, _ => .error .ended
  | steps + 1, isFirst, slots, input =>
    match nextMember isFirst input with
    | .error flaw => .error flaw
    | .ok (none, rest) =>
      match allSlots? layout slots with
      | none => .error .unfit
      | some vs => .ok (vs, rest)
    | .ok (some start, _) =>
      match readChars start with
      | .error flaw => .error flaw
      | .ok (name, rest) =>
        match readMember layout slots name rest with
        | .error flaw => .error flaw
        | .ok (slots, rest) => readMembers layout steps false slots rest

/-- the start of the next element of a list; nothing at the end of the list -/
def nextElement (isFirst : Bool) (input : Bytes) : Except Flaw (Option Bytes × Bytes) :=
  match skipBlanks input with
  | [] => .error .ended
  | b :: rest =>
    if b = closeBracket then .ok (none, rest)
    else if isFirst then .ok (some (b :: rest), rest)
    else if b = comma then
      match skipBlanks rest with
      | [] => .error .ended
      | c :: rest => if c = closeBracket then .error .malformed else .ok (some (c :: rest), rest)
    else .error .malformed

/-- reads one element per field; a list that is too short is unfit -/
def readElements : (layout : Layout) → Bool → Bytes → Scanned (Values layout)
  | [], _, input => .ok ((), input)
  | (_, kind) :: fields, isFirst, input =>
    match nextElement isFirst input with
    | .error flaw => .error flaw
    | .ok (none, _) => .error .unfit
    | .ok (some start, _) =>
      match kind.read start with
      | .error flaw => .error flaw
      | .ok (v, rest) =>
        match readElements fields false rest with
        | .error flaw => .error flaw
        | .ok (vs, rest) => .ok ((v, vs), rest)

def readListEnd (input : Bytes) : Except Flaw Bytes :=
  match skipBlanks input with
  | [] => .error .ended
  | b :: rest => if b = closeBracket then .ok rest else .error .malformed

/-- reads the values of a layout, from an object or from a list -/
def readValues (layout : Layout) (input : Bytes) : Scanned (Values layout) :=
  match skipBlanks input with
  | [] => .error .ended
  | b :: rest =>
    if b = openBrace then readMembers layout rest.length true (noSlots layout) rest
    else if b = openBracket then
      match readElements layout true rest with
      | .error flaw => .error flaw
      | .ok (vs, rest) =>
        match readListEnd rest with
        | .error flaw => .error flaw
        | .ok rest => .ok (vs, rest)
    else .error (mismatch b rest)

def read (α : Type) [Record α] (input : Bytes) : Scanned α :=
  match readValues (Record.layout α) input with
  | .error flaw => .error flaw
  | .ok (vs, rest) => .ok (Record.ofValues vs, rest)

/-- reads records up to the end of a list, at most `steps` of them -/
def readRecords (α : Type) [Record α] : Nat → Bool → Bytes → Scanned (List α)
  | 0, _, _ => .error .ended
  | steps + 1, isFirst, input =>
    match nextElement isFirst input with
    | .error flaw => .error flaw
    | .ok (none, rest) => .ok ([], rest)
    | .ok (some start, _) =>
      match read α start with
      | .error flaw => .error flaw
      | .ok (a, rest) =>
        match readRecords α steps false rest with
        | .error flaw => .error flaw
        | .ok (records, rest) => .ok (a :: records, rest)

def readList (α : Type) [Record α] (input : Bytes) : Scanned (List α) :=
  match skipBlanks input with
  | [] => .error .ended
  | b :: rest =>
    if b = openBracket then readRecords α rest.length true rest else .error (mismatch b rest)

/-! ## Whole texts -/

/-- what a whole text holds: nothing but blanks may follow the value -/
def whole {α : Type} (result : Scanned α) : Except Flaw α :=
  match result with
  | .error flaw => .error flaw
  | .ok (a, rest) => if skipBlanks rest = [] then .ok a else .error .malformed

def decode (α : Type) [Record α] (text : Bytes) : Except Flaw α :=
  whole (read α text)

def decodeList (α : Type) [Record α] (text : Bytes) : Except Flaw (List α) :=
  whole (readList α text)

/-- the record that a text starts with, whatever follows it -/
def decodeStart (α : Type) [Record α] (text : Bytes) : Except Flaw α :=
  match read α text with
  | .error flaw => .error flaw
  | .ok (a, _) => .ok a

end PayChannel.Json
