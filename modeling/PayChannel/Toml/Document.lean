import PayChannel.Toml.Scalar

/-!
# TOML: values and documents

A document is a sequence of lines: pairs of a key and a value, and headers that open a table or the
next element of a list of tables.

* `readValue`    a value;
* `parse`    a whole document.
-/

namespace PayChannel.Toml

/-! ## Values -/

/-- the elements of a list up to its closing bracket; line ends and comments may stand between
them, and a comma may stand after the last one -/
def readElements (read : List Char → Scanned Value) : Nat → List Char → Scanned (List Value)
  | 0, _ => none
  | steps + 1, input =>
    match skipSpace input.length input with
    | none => none
    | some (']' :: rest) => some ([], rest)
    | some input =>
      match read input with
      | none => none
      | some (v, rest) =>
        match skipSpace rest.length rest with
        | some (',' :: rest) => (readElements read steps rest).map fun (vs, rest) => (v :: vs, rest)
        | some (']' :: rest) => some ([v], rest)
        | _ => none

def readPair (read : List Char → Scanned Value) (input : List Char) : Scanned Pair :=
  match readKey input with
  | none => none
  | some ((path, key), rest) =>
    match rest with
    | '=' :: rest =>
      (read (skipBlanks rest)).map fun (value, rest) => ({ path, key, value }, rest)
    | _ => none

def readInline (read : List Char → Scanned Value) : Nat → List Char → Scanned (List Pair)
  | 0, _ => none
  | steps + 1, input =>
    match readPair read input with
    | none => none
    | some (pair, rest) =>
      match skipBlanks rest with
      | ',' :: rest => (readInline read steps rest).map fun (pairs, rest) => (pair :: pairs, rest)
      | '}' :: rest => some ([pair], rest)
      | _ => none

def readTable (read : List Char → Scanned Value) (input : List Char) : Scanned Entries :=
  match skipBlanks input with
  | '}' :: rest => some ([], rest)
  | input =>
    match readInline read input.length input with
    | none => none
    | some (pairs, rest) =>
      (Table.addPairs .inline [] pairs).map fun entries => (entries, rest)

/-- a value in which lists and tables are at most `depth` deep -/
def readValue : Nat → List Char → Scanned Value
  | depth, input =>
    match input with
    | [] => none
    | c :: rest =>
      if isQuote c || isTick c then
        (readString input).map fun (s, rest) => (.text s, rest)
      else if c = '[' then
        match depth with
        | 0 => none
        | depth + 1 =>
          (readElements (readValue depth) rest.length rest).map fun (vs, rest) => (.list vs, rest)
      else if c = '{' then
        match depth with
        | 0 => none
        | depth + 1 =>
          (readTable (readValue depth) rest).map fun (entries, rest) =>
            (.table .inline entries, rest)
      else readScalar input

/-! ## Documents -/

/-- the path, the last key and the rest of the line of a header, after its opening brackets -/
def readHeader (isArray : Bool) (input : List Char) : Scanned Section :=
  match readKey input with
  | none => none
  | some ((path, key), rest) =>
    let s : Section := ⟨isArray, path ++ [key], []⟩
    match isArray, rest with
    | true, ']' :: ']' :: rest => (finishLine rest).map fun rest => (s, rest)
    | false, ']' :: rest => (finishLine rest).map fun rest => (s, rest)
    | _, _ => none

/-- the sections of a document; `current` is the one that is being read, its pairs in reverse -/
def readSections : Nat → Section → List Char → Option (List Section)
  | 0, _, _ => none
  | steps + 1, current, input =>
    let done : Section := { current with pairs := current.pairs.reverse }
    match skipBlanks input with
    | [] => some [done]
    | '[' :: '[' :: rest =>
      match readHeader true rest with
      | none => none
      | some (next, rest) => (readSections steps next rest).map (done :: ·)
    | '[' :: rest =>
      match readHeader false rest with
      | none => none
      | some (next, rest) => (readSections steps next rest).map (done :: ·)
    | c :: rest =>
      if c = '#' then
        (finishLine (c :: rest)).bind fun rest => readSections steps current rest
      else
        match lineEnd? (c :: rest) with
        | some rest => readSections steps current rest
        | none =>
          match readPair (readValue maxDepth) (c :: rest) with
          | none => none
          | some (pair, rest) =>
            (finishLine rest).bind fun rest =>
              readSections steps { current with pairs := pair :: current.pairs } rest

/-- the text after the mark of a byte order, if the text begins with one -/
def skipMark : List Char → List Char
  | c :: rest => if c.toNat = 0xFEFF then rest else c :: rest
  | [] => []

def parse (text : String) : Option Entries :=
  let input := skipMark text.toList
  match readSections (input.length + 1) ⟨false, [], []⟩ input with
  | none => none
  | some sections => sections.foldlM Table.addSection []

end PayChannel.Toml
