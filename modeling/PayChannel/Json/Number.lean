import PayChannel.Decimal
import PayChannel.Json.Scan

/-!
# JSON: numbers

A number is either a natural number below 2^64, or a number of another kind: negative, with a
fraction or an exponent, or too large.  A number of another kind has to lie within the range of
binary floating point of 64 bits, otherwise it is malformed.  Amounts take 128 bits and are scanned
on their own, as bare digits.

* `skipNumber`    a number whose value does not matter; any size is fine.
-/

namespace PayChannel.Json

open Ascii

inductive Number where
  | natural (n : Nat)
  | other
deriving DecidableEq

/-! ## The range of floating point -/

/-- the number `n` rounded to 53 significant bits, a half going to the even neighbour -/
def round53 (n : Nat) : Nat :=
  let unit := Nat.pow 2 (n.log2 - 52)
  let low := n / unit
  let rest := n % unit
  let up := decide (unit < 2 * rest) || (decide (2 * rest = unit) && decide (low % 2 = 1))
  (if up then low + 1 else low) * unit

/-- whether `mantissa` times `10^exponent` is past the largest floating point number.  Both factors
are rounded before they are multiplied. -/
def outOfRange (mantissa : Nat) (exponent : Int) : Bool :=
  if mantissa = 0 then false
  else if 308 < exponent then true
  else if exponent < 0 then false
  else
    let power := Nat.pow 10 exponent.toNat
    decide (Nat.pow 2 1024 - Nat.pow 2 970 ≤ round53 mantissa * round53 power)

/-- as many leading digits as fit a mantissa of 64 bits, and the digits that follow -/
def takeMantissa (mantissa : Nat) : Bytes → Nat × Bytes
  | [] => (mantissa, [])
  | b :: ds =>
    if Decimal.push mantissa b < Nat.pow 2 64 then takeMantissa (Decimal.push mantissa b) ds
    else (mantissa, b :: ds)

/-! ## Reading -/

def finishOther (mantissa : Nat) (exponent : Int) (rest : Bytes) : Scanned Number :=
  if outOfRange mantissa exponent then .error .malformed else .ok (.other, rest)

def readExponent (mantissa : Nat) (exponent : Int) (input : Bytes) : Scanned Number :=
  let (negative, input) := match input with
    | b :: rest => if b = plus then (false, rest) else if b = minus then (true, rest)
        else (false, input)
    | [] => (false, [])
  match Decimal.span input with
  | ([], []) => .error .ended
  | ([], _ :: _) => .error .malformed
  | (ds, rest) =>
    let n : Int := Decimal.value ds
    finishOther mantissa (if negative then exponent - n else exponent + n) rest

/-- what may follow the digits of a number -/
def readTail (mantissa : Nat) (exponent : Int) (input : Bytes) : Scanned Number :=
  match input with
  | b :: rest =>
    if b = 101 ∨ b = 69 then readExponent mantissa exponent rest
    else finishOther mantissa exponent input
  | [] => finishOther mantissa exponent []

def readFraction (mantissa : Nat) (exponent : Int) (input : Bytes) : Scanned Number :=
  match Decimal.span input with
  | ([], []) => .error .ended
  | ([], _ :: _) => .error .malformed
  | (ds, rest) =>
    let (m, unread) := takeMantissa mantissa ds
    readTail m (exponent - (ds.length - unread.length)) rest

def readNumber (negative : Bool) (input : Bytes) : Scanned Number :=
  match Decimal.span input with
  | ([], []) => .error .ended
  | ([], _ :: _) => .error .malformed
  | (d :: ds, rest) =>
    if d = zero ∧ ds ≠ [] then .error .malformed
    else
      let (mantissa, unread) := takeMantissa 0 (d :: ds)
      match rest with
      | b :: tail =>
        if b = dot then readFraction mantissa unread.length tail
        else if b = 101 ∨ b = 69 then readExponent mantissa unread.length tail
        else if unread = [] ∧ !negative then .ok (.natural mantissa, rest)
        else finishOther mantissa unread.length rest
      | [] =>
        if unread = [] ∧ !negative then .ok (.natural mantissa, [])
        else finishOther mantissa unread.length []

/-- an amount: bare digits without a leading zero, below 2^128 -/
def readAmount (input : Bytes) : Scanned Amount :=
  match Decimal.span input with
  | ([], []) => .error .ended
  | ([], _ :: _) => .error .malformed
  | (d :: ds, rest) =>
    if d = zero ∧ ds ≠ [] then .error .malformed
    else
      match Word.ofNat? (Decimal.value (d :: ds)) with
      | none => .error .malformed
      | some amount => .ok (amount, rest)

/-! ## Skipping -/

def skipExponent (input : Bytes) : Except Flaw Bytes :=
  let input := match input with
    | b :: rest => if b = plus ∨ b = minus then rest else input
    | [] => []
  match Decimal.span input with
  | ([], _) => .error .malformed
  | (_, rest) => .ok rest

def skipTail (input : Bytes) : Except Flaw Bytes :=
  match input with
  | b :: rest => if b = 101 ∨ b = 69 then skipExponent rest else .ok input
  | [] => .ok []

def skipNumber (input : Bytes) : Except Flaw Bytes :=
  match Decimal.span input with
  | ([], _) => .error .malformed
  | (d :: ds, rest) =>
    if d = zero ∧ ds ≠ [] then .error .malformed
    else
      match rest with
      | b :: tail =>
        if b = dot then
          match Decimal.span tail with
          | ([], _) => .error .malformed
          | (_, rest) => skipTail rest
        else skipTail rest
      | [] => .ok []

end PayChannel.Json
