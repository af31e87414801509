import PayChannel.Ascii

/-!
# Media types

A media type is `type/subtype`, the subtype with an optional suffix after its last plus sign, and
then parameters, each after a semicolon.  A body counts as JSON if its type is `application` and
its subtype or its suffix is `json`, in any case.

* `isJson`    whether a header value names such a type.
-/

namespace PayChannel.Http.MediaType

open Ascii

def isToken (b : UInt8) : Bool :=
  isDigit b || (65 ≤ b && b ≤ 90) || (97 ≤ b && b ≤ 122) ||
    (Bytes.ofString "!#$%&'*+-.^_`|~").contains b

def token (input : Bytes) : Bytes × Bytes :=
  (input.takeWhile isToken, input.dropWhile isToken)

def isQuotable (b : UInt8) : Bool :=
  32 ≤ b && b ≠ 127

def afterQuote? : Bytes → Option Bytes
  | [] => none
  | b :: rest =>
    if b = quote then some rest
    else if isQuotable b then afterQuote? rest
    else none

/-- the text after a quoted value whose opening quote has been read; the value is not empty, and
its first byte may be a quote -/
def afterQuoted? : Bytes → Option Bytes
  | [] => none
  | b :: rest => if isQuotable b then afterQuote? rest else none

/-- whether parameters are well formed, each being `name=value`; the value may be quoted, and an
unquoted value may be empty only at the very end.  At most `steps` parameters are looked at. -/
def goodParameters : Nat → Bytes → Bool
  | 0, _ => false
  | _ + 1, [] => true
  | steps + 1, b :: rest =>
    if b = space then goodParameters steps rest
    else
      let (name, tail) := token (b :: rest)
      match tail with
      | [] => false
      | e :: value =>
        if e ≠ 61 ∨ name = [] then false
        else
          match value with
          | [] => true
          | q :: quoted =>
            if q = quote then
              match afterQuoted? quoted with
              | none => false
              | some rest =>
                match rest.dropWhile (· = space) with
                | [] => true
                | s :: more => s = 59 && goodParameters steps more
            else
              let (plain, tail) := token value
              match tail with
              | [] => true
              | s :: more => s = 59 && plain ≠ [] && goodParameters steps more

/-- the parts of a subtype: what stands before its last plus sign, and the suffix after it.  A plus
sign at the very start belongs to the subtype. -/
def splitSuffix (subtype : Bytes) : Bytes × Option Bytes :=
  let reversed := subtype.reverse
  let suffix := reversed.takeWhile (· ≠ plus)
  match reversed.dropWhile (· ≠ plus) with
  | [] => (subtype, none)
  | [_] => (subtype, none)
  | _ :: before => (before.reverse, some suffix.reverse)

def isJson (value : Bytes) : Bool :=
  let json := Bytes.ofString "json"
  let (type, rest) := token value
  match rest with
  | [] => false
  | b :: rest =>
    if b ≠ slash ∨ type = [] then false
    else
      let (subtype, rest) := token rest
      let wellFormed := match rest with
        | [] => true
        | s :: parameters =>
          s = 59 && subtype ≠ [] && goodParameters (parameters.length + 1) parameters
      let (main, suffix) := splitSuffix subtype
      wellFormed && sameLetters type (Bytes.ofString "application") &&
        (sameLetters main json || (suffix.map fun s => sameLetters s json).getD false)

end PayChannel.Http.MediaType
