/-!
# TOML: blanks, comments, strings and keys

Scanners take the characters that are left and give back what they found and what is left then, or
nothing if the text is not well formed.

* `readString`    a string of any of the four forms;
* `readKey`    a key, which may be dotted.
-/

namespace PayChannel.Toml

abbrev Scanned (α : Type) := Option (α × List Char)

/-! ## Blanks, line ends and comments -/

def isBlank (c : Char) : Bool :=
  c = ' ' || c = '\t'

def skipBlanks (input : List Char) : List Char :=
  input.dropWhile isBlank

/-- whether a character may stand in a comment, or in a string without escapes -/
def isPlain (c : Char) : Bool :=
  c = '\t' || (32 ≤ c.toNat && c.toNat ≠ 127)

def lineEnd? : List Char → Option (List Char)
  | '\n' :: rest => some rest
  | '\r' :: '\n' :: rest => some rest
  | _ => none

/-- the text after a comment, if one stands here -/
def skipComment : List Char → List Char
  | '#' :: rest => rest.dropWhile isPlain
  | input => input

/-- the text after the end of a line that holds nothing more than blanks and a comment -/
def finishLine (input : List Char) : Option (List Char) :=
  match skipComment (skipBlanks input) with
  | [] => some []
  | rest => lineEnd? rest

/-- the text after blanks, comments and line ends, in at most `steps` steps; a comment ends with its
line -/
def skipSpace : Nat → List Char → Option (List Char)
  | 0, input => some input
  | steps + 1, input =>
    match skipBlanks input with
    | '#' :: rest => (lineEnd? (rest.dropWhile isPlain)).bind (skipSpace steps)
    | rest =>
      match lineEnd? rest with
      | some rest => skipSpace steps rest
      | none => some rest

/-! ## Strings -/

def hexNumber? (ds : List Char) : Option Nat :=
  ds.foldlM (fun n c =>
    if '0' ≤ c ∧ c ≤ '9' then some (16 * n + (c.toNat - 48))
    else if 'a' ≤ c ∧ c ≤ 'f' then some (16 * n + (c.toNat - 87))
    else if 'A' ≤ c ∧ c ≤ 'F' then some (16 * n + (c.toNat - 55))
    else none) 0

def charOfCode? (code : Nat) : Option Char :=
  if code.isValidChar then some (Char.ofNat code) else none

/-- an escape by number: `count` digits -/
def readCode (count : Nat) (input : List Char) : Scanned Char :=
  let ds := input.take count
  if ds.length = count then
    ((hexNumber? ds).bind charOfCode?).map fun c => (c, input.drop count)
  else none

def readEscape : List Char → Scanned Char
  | 'b' :: rest => some (Char.ofNat 8, rest)
  | 't' :: rest => some ('\t', rest)
  | 'n' :: rest => some ('\n', rest)
  | 'f' :: rest => some (Char.ofNat 12, rest)
  | 'r' :: rest => some ('\r', rest)
  | 'u' :: rest => readCode 4 rest
  | 'U' :: rest => readCode 8 rest
  | c :: rest => if c.toNat = 34 ∨ c.toNat = 92 then some (c, rest) else none
  | [] => none

def isQuote (c : Char) : Bool :=
  c.toNat = 34

def isTick (c : Char) : Bool :=
  c.toNat = 39

def isBackslash (c : Char) : Bool :=
  c.toNat = 92

/-- a string of one line with escapes, up to its closing quote -/
def readBasic : Nat → List Char → Scanned (List Char)
  | 0, _ => none
  | _ + 1, [] => none
  | steps + 1, c :: rest =>
    if isQuote c then some ([], rest)
    else if isBackslash c then
      match readEscape rest with
      | none => none
      | some (e, rest) => (readBasic steps rest).map fun (cs, rest) => (e :: cs, rest)
    else if isPlain c then (readBasic steps rest).map fun (cs, rest) => (c :: cs, rest)
    else none

def readLiteral : List Char → Scanned (List Char)
  | [] => none
  | c :: rest =>
    if isTick c then some ([], rest)
    else if isPlain c then (readLiteral rest).map fun (cs, rest) => (c :: cs, rest)
    else none

def skipLines : Nat → List Char → List Char
  | 0, input => input
  | steps + 1, input =>
    match lineEnd? (skipBlanks input) with
    | some rest => skipLines steps rest
    | none => skipBlanks input

/-- a string of several lines up to its three closing quotes; up to two more quotes may stand right
before them.  `escapes` tells whether a backslash begins an escape; a backslash at the end of a line
takes the line end and the blanks that follow away. -/
def readLong (escapes : Bool) (isEnd : Char → Bool) : Nat → List Char → Scanned (List Char)
  | 0, _ => none
  | _ + 1, [] => none
  | steps + 1, c :: rest =>
    if isEnd c then
      let run := (c :: rest).takeWhile isEnd
      if run.length < 3 then
        (readLong escapes isEnd steps rest).map fun (cs, rest) => (c :: cs, rest)
      else
        let count := min run.length 5
        some (run.take (count - 3), (c :: rest).drop count)
    else if escapes && isBackslash c then
      match lineEnd? (skipBlanks rest) with
      | some rest => readLong escapes isEnd steps (skipLines rest.length rest)
      | none =>
        match readEscape rest with
        | none => none
        | some (e, rest) =>
          (readLong escapes isEnd steps rest).map fun (cs, rest) => (e :: cs, rest)
    else
      match lineEnd? (c :: rest) with
      | some rest => (readLong escapes isEnd steps rest).map fun (cs, rest) => ('\n' :: cs, rest)
      | none =>
        if isPlain c then (readLong escapes isEnd steps rest).map fun (cs, rest) => (c :: cs, rest)
        else none

/-- the text after the line end that may follow three opening quotes -/
def afterOpening (input : List Char) : List Char :=
  (lineEnd? input).getD input

def readString (input : List Char) : Scanned String :=
  let result := match input with
    | a :: b :: c :: rest =>
      if isQuote a && isQuote b && isQuote c then
        readLong true isQuote (rest.length + 1) (afterOpening rest)
      else if isTick a && isTick b && isTick c then
        readLong false isTick (rest.length + 1) (afterOpening rest)
      else if isQuote a then readBasic input.length (b :: c :: rest)
      else if isTick a then readLiteral (b :: c :: rest)
      else none
    | [a, b] =>
      if isQuote a && isQuote b then some ([], [])
      else if isTick a && isTick b then some ([], [])
      else none
    | _ => none
  result.map fun (cs, rest) => (String.ofList cs, rest)

/-! ## Keys -/

/-- whether a character may stand in a key without quotes -/
def isBare (c : Char) : Bool :=
  c.isAlphanum || c = '_' || c = '-'

def readPart (input : List Char) : Scanned String :=
  match input with
  | [] => none
  | c :: rest =>
    if isQuote c then
      (readBasic (rest.length + 1) rest).map fun (cs, rest) => (String.ofList cs, rest)
    else if isTick c then (readLiteral rest).map fun (cs, rest) => (String.ofList cs, rest)
    else
      match input.takeWhile isBare with
      | [] => none
      | cs => some (String.ofList cs, input.dropWhile isBare)

/-- the parts of a key between dots, with blanks around them, in at most `steps` parts -/
def readParts : Nat → List Char → Scanned (List String)
  | 0, _ => none
  | steps + 1, input =>
    match readPart (skipBlanks input) with
    | none => none
    | some (part, rest) =>
      match skipBlanks rest with
      | '.' :: rest => (readParts steps rest).map fun (parts, rest) => (part :: parts, rest)
      | rest => some ([part], rest)

/-- the count of brackets or of parts of a key that may be nested in each other -/
def maxDepth : Nat := 79

/-- a key: the parts before its last one, and the last one -/
def readKey (input : List Char) : Scanned (List String × String) :=
  match readParts maxDepth input with
  | none => none
  | some (parts, rest) =>
    match parts.reverse with
    | [] => none
    | key :: path => some ((path.reverse, key), rest)

end PayChannel.Toml
