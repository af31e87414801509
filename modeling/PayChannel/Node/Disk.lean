import PayChannel.Node.Files
import PayChannel.Node.Path

/-!
# Files on disk

The file system of the machine as a file store.
-/

namespace PayChannel

namespace Disk

/-- runs an action on the disk; tells whether it succeeded -/
def attempt (act : IO Unit) : IO Bool :=
  try
    act
    pure true
  catch _ => pure false

/-- whether a name is in use; a file that is there but may not be opened counts -/
def has (path : String) : IO Bool :=
  try
    IO.FS.withFile path .read fun _ => pure true
  catch
    | .noFileOrDirectory .. => pure false
    | _ => pure true

def read (path : String) : IO (Option Bytes) :=
  try
    let bytes ← IO.FS.readBinFile path
    pure (some bytes.toList)
  catch _ => pure none

def makeParents (path : String) : IO Bool :=
  match Path.parent path with
  | "" => pure true
  | parent => attempt (IO.FS.createDirAll parent)

def write (path : String) (bytes : Bytes) : IO Bool :=
  attempt (IO.FS.writeBinFile path (ByteArray.mk bytes.toArray))

end Disk

instance : FileStore IO where
  has := Disk.has
  read := Disk.read
  makeParents := Disk.makeParents
  write := Disk.write

end PayChannel
