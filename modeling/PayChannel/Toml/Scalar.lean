import PayChannel.Toml.Text
import PayChannel.Toml.Value

/-!
# TOML: numbers, truth values and dates

An integer is decimal with a sign if need be, or hexadecimal, octal or binary without one, and fits
64 bits with a sign.  A floating point number is decimal with a fraction or an exponent, and not
above the finite ones.  A date has its calendar's day, a time of day, or both.

* `readScalar`    a value that is neither a string nor a list nor a table.
-/

namespace PayChannel.Toml

/-! ## Numerals -/

def isDecimal (c : Char) : Bool :=
  c.isDigit

def isHexadecimal (c : Char) : Bool :=
  c.isDigit || ('a' ≤ c && c ≤ 'f') || ('A' ≤ c && c ≤ 'F')

def isOctal (c : Char) : Bool :=
  '0' ≤ c && c ≤ '7'

def isBinary (c : Char) : Bool :=
  c = '0' || c = '1'

/-- the digits that a numeral goes on with; an underscore may stand before each of them -/
def readMoreDigits (isDigit : Char → Bool) : List Char → Scanned (List Char)
  | '_' :: c :: rest =>
    if isDigit c then (readMoreDigits isDigit rest).map fun (ds, rest) => (c :: ds, rest) else none
  | c :: rest =>
    if c = '_' then none
    else if isDigit c then
      (readMoreDigits isDigit rest).map fun (ds, rest) => (c :: ds, rest)
    else some ([], c :: rest)
  | [] => some ([], [])

def readDigits (isDigit : Char → Bool) : List Char → Scanned (List Char)
  | c :: rest =>
    if isDigit c then (readMoreDigits isDigit rest).map fun (ds, rest) => (c :: ds, rest) else none
  | [] => none

/-- the digits of a decimal integer: a zero that leads it stands alone -/
def readWhole : List Char → Scanned (List Char)
  | '0' :: rest => some (['0'], rest)
  | input => readDigits isDecimal input

def digitValue (c : Char) : Nat :=
  if c.isDigit then c.toNat - 48 else if 'a' ≤ c then c.toNat - 87 else c.toNat - 55

def numeral (base : Nat) (ds : List Char) : Nat :=
  ds.foldl (fun n c => base * n + digitValue c) 0

def readSign : List Char → Bool × List Char
  | '-' :: rest => (true, rest)
  | '+' :: rest => (false, rest)
  | input => (false, input)

/-- the integer of a sign and a size, if it fits 64 bits with a sign -/
def signed? (isNegative : Bool) (n : Nat) : Option Int :=
  if isNegative then if n ≤ Nat.pow 2 63 then some (-(n : Int)) else none
  else if n < Nat.pow 2 63 then some n else none

/-! ## Floating point numbers -/

/-- the least number that is rounded to infinity instead of a finite number of double precision -/
def firstInfinite : Nat := Nat.pow 2 1024 - Nat.pow 2 970

/-- whether `n * 10^exponent` is rounded to a finite number of double precision -/
def isFinite (n : Nat) (exponent : Int) : Bool :=
  let size := (Nat.toDigits 10 n).length + exponent
  n = 0 || size < 300 ||
    (size ≤ 310 && n * Nat.pow 10 exponent.toNat < firstInfinite * Nat.pow 10 (-exponent).toNat)

def readFraction : List Char → Scanned (Option (List Char))
  | '.' :: rest => (readDigits isDecimal rest).map fun (ds, rest) => (some ds, rest)
  | input => some (none, input)

def readExponent : List Char → Scanned (Option Int)
  | c :: rest =>
    if c = 'e' ∨ c = 'E' then
      let (isNegative, rest) := readSign rest
      (readDigits isDecimal rest).map fun (ds, rest) =>
        let n : Int := numeral 10 ds
        (some (if isNegative then -n else n), rest)
    else some (none, c :: rest)
  | [] => some (none, [])

/-- a decimal number, as an integer if it has neither fraction nor exponent -/
def readDecimal (input : List Char) : Scanned Value :=
  let (isNegative, digits) := readSign input
  match readWhole digits with
  | none => none
  | some (whole, rest) =>
    match readFraction rest with
    | none => none
    | some (fraction, rest) =>
      match readExponent rest with
      | none => none
      | some (exponent, rest) =>
        if fraction.isNone ∧ exponent.isNone then
          (signed? isNegative (numeral 10 whole)).map fun n => (.integer n, rest)
        else
          let after := fraction.getD []
          let n := numeral 10 (whole ++ after)
          if isNegative || isFinite n (exponent.getD 0 - after.length) then some (.float, rest)
          else none

/-! ## Dates and times -/

/-- a number of exactly `count` digits between two bounds -/
def readField (count low high : Nat) (input : List Char) : Scanned Nat :=
  let ds := input.take count
  if ds.length = count ∧ ds.all isDecimal then
    let n := numeral 10 ds
    if low ≤ n ∧ n ≤ high then some (n, input.drop count) else none
  else none

def expectChar (c : Char) : List Char → Option (List Char)
  | d :: rest => if d = c then some rest else none
  | [] => none

def readFieldAfter (c : Char) (count low high : Nat) (input : List Char) : Scanned Nat :=
  (expectChar c input).bind (readField count low high)

def daysOfMonth (year month : Nat) : Nat :=
  if month = 2 then if year % 4 = 0 ∧ (year % 100 ≠ 0 ∨ year % 400 = 0) then 29 else 28
  else if month = 4 ∨ month = 6 ∨ month = 9 ∨ month = 11 then 30
  else 31

def skipDay? (input : List Char) : Option (List Char) :=
  match readField 4 0 9999 input with
  | none => none
  | some (year, rest) =>
    match readFieldAfter '-' 2 1 12 rest with
    | none => none
    | some (month, rest) =>
      (readFieldAfter '-' 2 1 (daysOfMonth year month) rest).map (·.2)

/-- the text after a fraction of a second; a point without digits is left -/
def skipFraction : List Char → List Char
  | '.' :: c :: rest => if isDecimal c then rest.dropWhile isDecimal else '.' :: c :: rest
  | input => input

/-- the text after a time of day: hour, minute, second and a fraction of it; the second may be a
leap second -/
def skipTime? (input : List Char) : Option (List Char) :=
  match readField 2 0 23 input with
  | none => none
  | some (_, rest) =>
    match readFieldAfter ':' 2 0 59 rest with
    | none => none
    | some (_, rest) => (readFieldAfter ':' 2 0 60 rest).map fun (_, rest) => skipFraction rest

/-- the text after the distance from universal time, if one stands here -/
def skipOffset : List Char → List Char
  | [] => []
  | c :: rest =>
    if c = 'Z' ∨ c = 'z' then rest
    else if c = '+' ∨ c = '-' then
      match readField 2 0 23 rest with
      | none => c :: rest
      | some (_, after) =>
        match readFieldAfter ':' 2 0 59 after with
        | none => c :: rest
        | some (_, after) => after
    else c :: rest

/-- the text after a date: a day, which a time may follow, or a time alone -/
def skipDate? (input : List Char) : Option (List Char) :=
  match skipDay? input with
  | none => skipTime? input
  | some [] => some []
  | some (c :: rest) =>
    if c = 'T' ∨ c = 't' ∨ c = ' ' then
      match skipTime? rest with
      | none => some (c :: rest)
      | some rest => some (skipOffset rest)
    else some (c :: rest)

/-! ## Any of them -/

def expectWord : List Char → List Char → Option (List Char)
  | [], input => some input
  | c :: cs, input => (expectChar c input).bind (expectWord cs)

/-- infinity or not a number, after a sign if need be -/
def readSpecial (input : List Char) : Scanned Value :=
  let rest := (readSign input).2
  match expectWord ['i', 'n', 'f'] rest with
  | some rest => some (.float, rest)
  | none => (expectWord ['n', 'a', 'n'] rest).map fun rest => (.float, rest)

/-- an integer after the mark of its base -/
def readBased (base : Nat) (isDigit : Char → Bool) (input : List Char) : Scanned Value :=
  match readDigits isDigit input with
  | none => none
  | some (ds, rest) => (signed? false (numeral base ds)).map fun n => (.integer n, rest)

def readNumber : List Char → Scanned Value
  | '0' :: 'x' :: rest => readBased 16 isHexadecimal rest
  | '0' :: 'o' :: rest => readBased 8 isOctal rest
  | '0' :: 'b' :: rest => readBased 2 isBinary rest
  | input =>
    match readSpecial input with
    | some result => some result
    | none => readDecimal input

def readTruth (input : List Char) : Scanned Value :=
  match expectWord ['t', 'r', 'u', 'e'] input with
  | some rest => some (.boolean true, rest)
  | none => (expectWord ['f', 'a', 'l', 's', 'e'] input).map fun rest => (.boolean false, rest)

/-- a value that is neither a string nor a list nor a table -/
def readScalar (input : List Char) : Scanned Value :=
  match readTruth input with
  | some result => some result
  | none =>
    match skipDate? input with
    | some rest => some (.date, rest)
    | none => readNumber input

end PayChannel.Toml
