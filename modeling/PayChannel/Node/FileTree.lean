import PayChannel.Node.Files
import PayChannel.Node.Path

/-!
# Files as a value

A tree of directories and files that needs no disk.  A path leads somewhere only if every place
that it passes on the way is a directory, and if neither a name nor the path is too long.

* `FileTree.resolve`    where a path leads;
* `FileTree.read`, `FileTree.write`    the bytes of a file;
* `FileTree.makeParents`    the directories on the way to a file.
-/

namespace PayChannel

inductive Entry where
  | directory
  | file (bytes : Bytes)

/-- directories and files by their place, the latest first -/
structure FileTree where
  entries : List (Place × Entry)

namespace FileTree

def empty : FileTree :=
  ⟨[]⟩

def find? (t : FileTree) (place : Place) : Option Entry :=
  if place.isGiven then some .directory else t.entries.lookup place

def isDirectory (t : FileTree) (place : Place) : Bool :=
  match t.find? place with
  | some .directory => true
  | _ => false

def put (t : FileTree) (place : Place) (entry : Entry) : FileTree :=
  ⟨(place, entry) :: t.entries⟩

/-- follows pieces of a path from a place, each of them from a directory -/
def follow (t : FileTree) : Place → List String → Option Place
  | place, [] => some place
  | place, piece :: rest =>
    if t.isDirectory place ∧ piece.utf8ByteSize ≤ Path.nameLimit then
      t.follow (place.step piece) rest
    else none

/-- where a path leads; there need not be anything, but what is above is a directory -/
def resolve (t : FileTree) (path : String) : Option Place :=
  if path.utf8ByteSize = 0 ∨ Path.limit < path.utf8ByteSize then none
  else t.follow (Path.origin path) (Path.pieces path)

def has (t : FileTree) (path : String) : Bool :=
  ((t.resolve path).bind t.find?).isSome

def read (t : FileTree) (path : String) : Option Bytes :=
  match (t.resolve path).bind t.find? with
  | some (.file bytes) => some bytes
  | _ => none

/-- follows names from a directory and makes the directories that are missing, unless a file is in
the way -/
def makeDirectories (t : FileTree) : Place → List String → Option FileTree
  | _, [] => some t
  | place, name :: rest =>
    if Path.nameLimit < name.utf8ByteSize then none
    else
      let next := place.step name
      match t.find? next with
      | some .directory => t.makeDirectories next rest
      | some (.file _) => none
      | none => (t.put next .directory).makeDirectories next rest

def makeParents (t : FileTree) (path : String) : Option FileTree :=
  if Path.limit < path.utf8ByteSize then none
  else t.makeDirectories (Path.origin path) (Path.directories path)

/-- gives the file that a path leads to its bytes, unless there is a directory -/
def write (t : FileTree) (path : String) (bytes : Bytes) : Option FileTree :=
  match t.resolve path with
  | none => none
  | some place => if t.isDirectory place then none else some (t.put place (.file bytes))

/-- the tree with one more file, and the directories that lead to it; no change if there is no
place for it -/
def add (t : FileTree) (path : String) (bytes : Bytes) : FileTree :=
  ((t.makeParents path).bind fun t => t.write path bytes).getD t

/-- a step that may fail: whether it is done, and the tree afterwards -/
def attempt (t : FileTree) (next : Option FileTree) : Bool × FileTree :=
  (next.isSome, next.getD t)

instance : FileStore (StateM FileTree) where
  has path := fun t => (t.has path, t)
  read path := fun t => (t.read path, t)
  makeParents path := fun t => t.attempt (t.makeParents path)
  write path bytes := fun t => t.attempt (t.write path bytes)

/-! ## What a place holds -/

theorem find?_put_self {t : FileTree} {place : Place} (entry : Entry) (h : ¬ place.isGiven) :
    (t.put place entry).find? place = some entry := by
  simp [find?, put, h]

theorem find?_put_of_ne {t : FileTree} {place other : Place} (entry : Entry)
    (h : other ≠ place) : (t.put place entry).find? other = t.find? other := by
  have ne : (other == place) = false := by simpa using h
  simp [find?, put, List.lookup_cons, ne]

theorem isDirectory_of_isGiven {place : Place} (t : FileTree) (h : place.isGiven) :
    t.isDirectory place = true := by
  simp [isDirectory, find?, h]

theorem isDirectory_put_file {t : FileTree} {place : Place} (bytes : Bytes)
    (h : t.isDirectory place = false) (other : Place) :
    (t.put place (.file bytes)).isDirectory other = t.isDirectory other := by
  by_cases e : other = place
  · subst e
    have g : ¬ other.isGiven := fun g => by simp [isDirectory_of_isGiven t g] at h
    rw [h, isDirectory, find?_put_self _ g]
  · simp [isDirectory, find?_put_of_ne _ e]

theorem follow_put_file {t : FileTree} {place : Place} (bytes : Bytes)
    (h : t.isDirectory place = false) (start : Place) (pieces : List String) :
    (t.put place (.file bytes)).follow start pieces = t.follow start pieces := by
  induction pieces generalizing start with
  | nil => rfl
  | cons piece rest ih => simp only [follow, isDirectory_put_file bytes h, ih]

/-- what is written to a path is read from it -/
theorem read_write {t next : FileTree} {path : String} {bytes : Bytes}
    (h : t.write path bytes = some next) : next.read path = some bytes := by
  unfold write at h
  cases r : t.resolve path with
  | none => simp [r] at h
  | some place =>
    cases d : t.isDirectory place with
    | true => simp [r, d] at h
    | false =>
      obtain rfl : t.put place (.file bytes) = next := by simpa [r, d] using h
      have g : ¬ place.isGiven := fun g => by simp [isDirectory_of_isGiven t g] at d
      have same : (t.put place (.file bytes)).resolve path = some place := by
        rw [← r]
        simp only [resolve, follow_put_file bytes d]
      simp [read, same, find?_put_self _ g]

end FileTree
end PayChannel
