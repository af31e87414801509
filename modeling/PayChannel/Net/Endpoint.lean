import PayChannel.Net.Address

/-!
# Endpoints

An endpoint is where a server listens: an address with a number of 16 bits after a colon.  An
address of version 6 stands in brackets and may be followed by a percent sign and a zone.

* `Endpoint.parse`, `Endpoint.write`    their text.
-/

namespace PayChannel.Net

open Ascii

/-- where a server listens -/
inductive Endpoint where
  | v4 (address : Address4) (number : Word 16)
  | v6 (address : Address6) (zone : Word 32) (number : Word 16)
deriving DecidableEq

namespace Endpoint

/-- reads a decimal number that fits a word, leading zeros allowed -/
def readWord (bits : Nat) (input : Bytes) : Option (Word bits × Bytes) :=
  let (ds, rest) := Decimal.span input
  if ds = [] then none else (Word.ofNat? (Decimal.value ds)).map fun w => (w, rest)

def readNumber (input : Bytes) : Option (Word 16) :=
  match (expectByte colon input).bind (readWord 16) with
  | some (number, []) => some number
  | _ => none

/-- the zone after a percent sign, or zone zero if there is none -/
def readZone (input : Bytes) : Option (Word 32 × Bytes) :=
  match expectByte percent input with
  | none => some (Word.zero, input)
  | some rest => readWord 32 rest

def parse4 (input : Bytes) : Option Endpoint := do
  let (address, rest) ← Address4.read input
  let number ← readNumber rest
  some (.v4 address number)

def parse6 (input : Bytes) : Option Endpoint := do
  let rest ← expectByte openBracket input
  let (address, rest) ← Address6.read rest
  let (zone, rest) ← readZone rest
  let rest ← expectByte closeBracket rest
  let number ← readNumber rest
  some (.v6 address zone number)

def parse (input : Bytes) : Option Endpoint :=
  match parse4 input with
  | some e => some e
  | none => parse6 input

/-- writes an endpoint; zone zero is left out -/
def write : Endpoint → Bytes
  | v4 address number => address.write ++ colon :: Decimal.digits number.val
  | v6 address zone number =>
    let zoneText := if zone.val = 0 then [] else percent :: Decimal.digits zone.val
    openBracket :: address.write ++ zoneText ++ closeBracket :: colon :: Decimal.digits number.val

end Endpoint
end PayChannel.Net
