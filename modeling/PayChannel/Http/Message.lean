import PayChannel.Hex

/-!
# HTTP messages

A request with its headers in order, and a response.  Header names are compared without regard to
case, and the first header of a name counts.
-/

namespace PayChannel.Http

abbrev Header := Bytes × Bytes

/-- a request; the target is the path and, after a question mark, the query, or a whole address
with a scheme and an authority in front of them -/
structure Request where
  method : String
  target : Bytes
  headers : List Header
  body : Bytes

/-- a response; its body is JSON or plain text, or there is none -/
structure Response where
  status : Nat
  isJson : Bool
  body : Bytes
deriving DecidableEq

def Response.bare (status : Nat) : Response :=
  ⟨status, false, []⟩

def Request.below (base : Bytes) (request : Request) : Request :=
  { request with target := base ++ request.target }

def carriesBody (status : Nat) : Bool :=
  200 ≤ status && status ≠ 204 && status ≠ 304

def header? (headers : List Header) (name : String) : Option Bytes :=
  (headers.find? fun h => Ascii.sameLetters h.1 (Bytes.ofString name)).map (·.2)

def isVisible (value : Bytes) : Bool :=
  value.all fun (b : UInt8) => (32 ≤ b && b < 127) || b = Ascii.tab

/-! ## Targets -/

/-- whether a byte may stand in a scheme: a letter, a digit, or one of `+ - . ~` -/
def isScheme (b : UInt8) : Bool :=
  (97 ≤ Ascii.toLower b && Ascii.toLower b ≤ 122) || Ascii.isDigit b || b = Ascii.plus ||
    b = Ascii.minus || b = Ascii.dot || b = Ascii.tilde

/-- what follows the scheme of a target that is a whole address -/
def afterScheme? (target : Bytes) : Option Bytes :=
  match target.dropWhile isScheme with
  | a :: b :: c :: rest =>
    if a = Ascii.colon ∧ b = Ascii.slash ∧ c = Ascii.slash then some rest else none
  | _ => none

def endsPath (b : UInt8) : Bool :=
  b = Ascii.question || b = Ascii.hash

/-- a target without its scheme, its authority and its query -/
def path (target : Bytes) : Bytes :=
  let onward := match afterScheme? target with
    | none => target
    | some rest => rest.dropWhile fun (b : UInt8) => b ≠ Ascii.slash && !endsPath b
  onward.takeWhile fun (b : UInt8) => !endsPath b

def segments : Bytes → List Bytes
  | [] => [[]]
  | b :: rest =>
    match segments rest with
    | [] => [[b]]
    | piece :: pieces => if b = Ascii.slash then [] :: piece :: pieces else (b :: piece) :: pieces

def escaped? (a b : UInt8) : Option UInt8 :=
  match Hex.digit? a, Hex.digit? b with
  | some high, some low => some (high <<< 4 ||| low)
  | _, _ => none

/-- replaces percent escapes by the bytes they stand for; a percent sign that begins no escape
stays as it is -/
def unescape : Bytes → Bytes
  | p :: a :: b :: rest =>
    if p = Ascii.percent then
      match escaped? a b with
      | some c => c :: unescape rest
      | none => p :: unescape (a :: b :: rest)
    else p :: unescape (a :: b :: rest)
  | short => short

end PayChannel.Http
