import PayChannel.Node.Config
import PayChannel.Node.KeyFile

/-!
# Files

What a node keeps in files, and what it asks of a file store to do so: to tell whether something
has a name, to read it, to make the directories above it, and to write it.

* `Config.load`, `Config.save`    configurations;
* `KeyPair.loadFile`, `KeyPair.saveFile`    key pairs.
-/

namespace PayChannel

/-- what a node asks of its files -/
class FileStore (m : Type → Type) where
  has : String → m Bool
  read : String → m (Option Bytes)
  /-- makes the directories that lead to what a path names; tells whether they are there now -/
  makeParents : String → m Bool
  /-- gives a file its bytes; tells whether it has them now -/
  write : String → Bytes → m Bool

section
variable {m : Type → Type} [Monad m] [FileStore m]

def readText (path : String) : m (Except Fault String) := do
  match (← FileStore.read path).bind Bytes.toString? with
  | none => pure (.error .storage)
  | some text => pure (.ok text)

def writeText (path text : String) : m (Except Fault Unit) := do
  if ← FileStore.write path (Bytes.ofString text) then pure (.ok ()) else pure (.error .storage)

def Config.load (path : String) : m (Except Fault Config) := do
  match ← readText path with
  | .error fault => pure (.error fault)
  | .ok text => pure (Config.parse text)

def Config.save (c : Config) (path : String) : m (Except Fault Unit) := do
  if ← FileStore.makeParents path then
    match c.write? with
    | none => pure (.error .configNumber)
    | some text => writeText path text
  else pure (.error .storage)

def KeyPair.loadFile (S : SignatureScheme) (path : String) : m (Except Fault Secret) := do
  match ← readText path with
  | .error fault => pure (.error fault)
  | .ok text => pure (KeyPair.load S text)

def KeyPair.saveFile (k : KeyPair) (path : String) : m (Except Fault Unit) := do
  if ← FileStore.makeParents path then writeText path k.write else pure (.error .storage)

end
end PayChannel
