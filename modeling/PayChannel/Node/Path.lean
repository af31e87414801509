/-!
# Paths

A path is read piece by piece, from left to right.  The pieces stand between slashes: an empty
piece or a dot stays where it is, two dots lead to the directory above, and any other piece is a
name in the directory reached so far.

* `Place.step`    where a piece leads;
* `Path.directories`    the pieces that lead to the directory of what a path names.
-/

namespace PayChannel

/-- where a file or a directory is: the names that lead to it from the directory that a node works
in.  Two dots in front stand for one level above that directory, and a slash in front for the
root. -/
abbrev Place := List String

namespace Place

/-- the directory that a node works in -/
def start : Place :=
  []

def root : Place :=
  ["/"]

/-- whether a place is the root, the directory that a node works in, or above that directory -/
def isGiven (place : Place) : Bool :=
  place = root || place.all (· = "..")

/-- the directory above; above the root is the root itself -/
def above (place : Place) : Place :=
  if place = root then root
  else if place.all (· = "..") then ".." :: place
  else place.dropLast

/-- where a piece of a path leads from a directory -/
def step (place : Place) (piece : String) : Place :=
  if piece = "" ∨ piece = "." then place
  else if piece = ".." then place.above
  else place ++ [piece]

end Place

namespace Path

def nameLimit : Nat :=
  255

def limit : Nat :=
  4095

def pieces (path : String) : List String :=
  path.splitOn "/"

def origin (path : String) : Place :=
  if path.startsWith "/" then Place.root else Place.start

/-- the pieces that lead to the directory of what a path names -/
def directories (path : String) : List String :=
  ((pieces path).filter fun piece => piece ≠ "" ∧ piece ≠ ".").dropLast

/-- the path of that directory; empty if it is the one that a node works in -/
def parent (path : String) : String :=
  (if path.startsWith "/" then "/" else "") ++ "/".intercalate (directories path)

end Path
end PayChannel
