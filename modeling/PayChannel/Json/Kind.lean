import PayChannel.Account
import PayChannel.Json.Skip

/-!
# JSON: the kinds of field values

A field holds a number of a fixed width, an amount, an account, a byte string or a text.  Accounts
and byte strings are hexadecimal text, written without the mark and read with any number of marks.

* `Kind.read`    reads a value of a kind;
* `Kind.write`    writes one.
-/

namespace PayChannel.Json

open Ascii

inductive Kind where
  | word (bits : Nat)
  | amount
  | account
  | octets
  | text

abbrev Kind.Value : Kind → Type
  | word bits => Word bits
  | amount => Amount
  | account => Account
  | octets => Bytes
  | text => String

/-! ## Reading -/

def isText (bytes : Bytes) : Bool :=
  (Bytes.toString? bytes).isSome

/-- what is wrong with a value of another kind than the one asked for, whose first byte has been
looked at -/
def mismatch (b : UInt8) (rest : Bytes) : Flaw :=
  let verdict (result : Except Flaw Unit) : Flaw := match result with
    | .error flaw => flaw
    | .ok _ => .unfit
  if b = 110 then verdict ((expect [117, 108, 108] rest).map fun _ => ())
  else if b = 116 then verdict ((expect [114, 117, 101] rest).map fun _ => ())
  else if b = 102 then verdict ((expect [97, 108, 115, 101] rest).map fun _ => ())
  else if b = minus then verdict ((readNumber true rest).map fun _ => ())
  else if isDigit b then verdict ((readNumber false (b :: rest)).map fun _ => ())
  else if b = quote then
    match readChars rest with
    | .error flaw => flaw
    | .ok (bytes, _) => if isText bytes then .unfit else .malformed
  else if b = openBracket ∨ b = openBrace then .unfit
  else .malformed

/-- reads a value whose first byte has to be a quote, as the bytes between the quotes -/
def readQuoted (input : Bytes) : Scanned Bytes :=
  match skipBlanks input with
  | [] => .error .ended
  | b :: rest => if b = quote then readChars rest else .error (mismatch b rest)

/-- reads a string that has to spell something; what does not is unfit if it is a text at all -/
def readSpelled {α : Type} (spell : Bytes → Except HexError α) (input : Bytes) : Scanned α :=
  match readQuoted input with
  | .error flaw => .error flaw
  | .ok (bytes, rest) =>
    match spell bytes with
    | .ok a => .ok (a, rest)
    | .error _ => if isText bytes then .error .unfit else .error .malformed

def readWord (bits : Nat) (input : Bytes) : Scanned (Word bits) :=
  match skipBlanks input with
  | [] => .error .ended
  | b :: rest =>
    if isDigit b then
      match readNumber false (b :: rest) with
      | .error flaw => .error flaw
      | .ok (.other, _) => .error .unfit
      | .ok (.natural n, rest) =>
        match Word.ofNat? n with
        | none => .error .unfit
        | some w => .ok (w, rest)
    else .error (mismatch b rest)

def Kind.read : (kind : Kind) → Bytes → Scanned kind.Value
  | word bits, input => readWord bits input
  | amount, input => readAmount (skipBlanks input)
  | account, input => readSpelled Account.ofText input
  | octets, input => readSpelled (fun bytes => Hex.decode (Hex.dropMarks bytes)) input
  | text, input =>
    match readQuoted input with
    | .error flaw => .error flaw
    | .ok (bytes, rest) =>
      match Bytes.toString? bytes with
      | none => .error .malformed
      | some s => .ok (s, rest)

/-! ## Writing -/

/-- how a byte is written inside a string: quotes, backslashes and control characters are escaped -/
def escape (b : UInt8) : Bytes :=
  if b = quote then [backslash, quote]
  else if b = backslash then [backslash, backslash]
  else if b = 8 then [backslash, 98]
  else if b = 12 then [backslash, 102]
  else if b = lineFeed then [backslash, 110]
  else if b = carriageReturn then [backslash, 114]
  else if b = tab then [backslash, 116]
  else if b < 32 then [backslash, escapeU, 48, 48, Hex.digit (b >>> 4), Hex.digit (b &&& 15)]
  else [b]

def writeQuoted (bytes : Bytes) : Bytes :=
  quote :: bytes.flatMap escape ++ [quote]

def Kind.write : (kind : Kind) → kind.Value → Bytes
  | word _, w => Decimal.digits w.val
  | amount, a => Decimal.digits a.val
  | account, a => writeQuoted (Hex.encode a.bytes)
  | octets, bytes => writeQuoted (Hex.encode bytes)
  | text, s => writeQuoted (Bytes.ofString s)

end PayChannel.Json
