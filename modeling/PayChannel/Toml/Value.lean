import PayChannel.Word

/-!
# TOML: values and tables

A table is open to further entries according to how it came about: by a header of its own, as the
parent of a header, by a dotted key, or written inline.  Headers open tables that only exist as
parents; dotted keys extend tables that dotted keys made; nothing extends an inline table.

* `Table.update`    follows a path of keys into a table and changes the table at its end;
* `Table.addPair`    one `key = value` line;
* `Table.addSection`    one header with its lines.
-/

namespace PayChannel.Toml

inductive Origin where
  | header
  | parent
  | dotted
  | inline
deriving DecidableEq

/-- a value; of floating point numbers and dates only the kind is kept -/
inductive Value where
  | text (s : String)
  | integer (n : Int)
  | float
  | boolean (b : Bool)
  | date
  | list (elements : List Value)
  | table (origin : Origin) (entries : List (String × Value))
  | tables (elements : List (List (String × Value)))

namespace Value

def text? : Value → Option String
  | text s => some s
  | _ => none

/-- the word that a value is: an integer that is not negative and fits -/
def word? (bits : Nat) : Value → Option (Word bits)
  | integer n => if 0 ≤ n then Word.ofNat? n.toNat else none
  | _ => none

end Value

abbrev Entries := List (String × Value)

/-- a line `a.b.key = value` -/
structure Pair where
  path : List String
  key : String
  value : Value

/-- a header `[a.b]` or `[[a.b]]` with the lines below it; the text before the first header has an
empty path -/
structure Section where
  isArray : Bool
  path : List String
  pairs : List Pair

namespace Table

def get? (entries : Entries) (key : String) : Option Value :=
  (entries.find? fun e => e.1 = key).map (·.2)

def set (entries : Entries) (key : String) (v : Value) : Entries :=
  match entries with
  | [] => [(key, v)]
  | e :: rest => if e.1 = key then (key, v) :: rest else e :: set rest key v

/-- changes the table at the end of a path, making tables on the way as needed.  `dotted` tells
whether the path stands in a dotted key or in a header. -/
def update (dotted : Bool) : List String → Origin → Entries →
    (Origin → Entries → Option Entries) → Option Entries
  | [], origin, entries, change => change origin entries
  | key :: path, _, entries, change =>
    match get? entries key with
    | none =>
      let origin := if dotted then Origin.dotted else Origin.parent
      (update dotted path origin [] change).map fun inner => set entries key (.table origin inner)
    | some (.table origin inner) =>
      if origin = .inline ∨ (dotted ∧ origin = .header) then none
      else
        (update dotted path origin inner change).map fun inner =>
          set entries key (.table origin inner)
    | some (.tables elements) =>
      match elements.reverse with
      | [] => none
      | last :: earlier =>
        (update dotted path .header last change).map fun inner =>
          set entries key (.tables (inner :: earlier).reverse)
    | some _ => none

/-- adds a line to a table; a key is given only once, and a dotted key ends in a table that dotted
keys made -/
def addPair (origin : Origin) (entries : Entries) (pair : Pair) : Option Entries :=
  update true pair.path origin entries fun inside inner =>
    if decide (inside = .dotted) = pair.path.isEmpty then none
    else if (get? inner pair.key).isSome then none
    else some (set inner pair.key pair.value)

def addPairs (origin : Origin) (entries : Entries) (pairs : List Pair) : Option Entries :=
  pairs.foldlM (addPair origin) entries

/-- adds a header with its lines to a document -/
def addSection (document : Entries) (s : Section) : Option Entries :=
  match s.path.reverse with
  | [] => addPairs .header document s.pairs
  | key :: above =>
    update false above.reverse .header document fun _ entries =>
      if s.isArray then
        match get? entries key with
        | none => (addPairs .header [] s.pairs).map fun t => set entries key (.tables [t])
        | some (.tables elements) =>
          (addPairs .header [] s.pairs).map fun t => set entries key (.tables (elements ++ [t]))
        | some _ => none
      else
        match get? entries key with
        | none => (addPairs .header [] s.pairs).map fun t => set entries key (.table .header t)
        | some (.table .parent inner) =>
          (addPairs .header inner s.pairs).map fun t => set entries key (.table .header t)
        | some _ => none

end Table
end PayChannel.Toml
