import Mathlib
import PayChannel.Node.FileTree
import PayChannel.Proofs.Text

/-!
# Texts in a tree of files

A path is writable if the directories that lead to it are there or can be made, and if no directory
stands where it leads.  A text that is written to such a path is the text that is read from it.

* `Writable`    the paths under which a tree takes a file;
* `text?_of_write`    what is read after a write;
* `run_readText`, `run_writeText`, `run_makeParents`    the steps of a node, on a tree.
-/

set_option linter.unusedSectionVars false

namespace PayChannel

namespace FileTree

/-- whether a tree takes a file under a path, once the directories that lead to it are made -/
def Writable (t : FileTree) (path : String) : Prop :=
  ∃ made place, t.makeParents path = some made ∧ made.resolve path = some place ∧
    made.isDirectory place = false

def text? (t : FileTree) (path : String) : Option String :=
  (t.read path).bind Bytes.toString?

theorem Writable.exists_write {t : FileTree} {path : String} (h : t.Writable path) :
    ∃ made, t.makeParents path = some made ∧
      ∀ bytes, ∃ next, made.write path bytes = some next := by
  obtain ⟨made, place, hmade, hplace, hfree⟩ := h
  refine ⟨made, hmade, fun bytes => ⟨made.put place (.file bytes), ?_⟩⟩
  rw [write, hplace]
  dsimp only
  rw [hfree]
  rfl

theorem pieces_nested : Path.pieces "node/file.toml" = ["node", "file.toml"] := by
  rw [Path.pieces, String.splitOn]
  simp +decide [String.splitOnAux]

theorem writable_nested : empty.Writable "node/file.toml" := by
  have horigin : Path.origin "node/file.toml" = [] := by cbv
  refine ⟨empty.put ["node"] .directory, ["node", "file.toml"], ?_, ?_, rfl⟩
  · rw [makeParents, Path.directories, pieces_nested, horigin]
    rfl
  · rw [resolve, pieces_nested, horigin]
    rfl

theorem text?_of_write {t next : FileTree} {path text : String}
    (h : t.write path (Bytes.ofString text) = some next) : next.text? path = some text := by
  rw [text?, read_write h, Option.bind_some, Bytes.toString?_ofString]

theorem text?_add {t : FileTree} {path : String} (h : t.Writable path) (text : String) :
    (t.add path (Bytes.ofString text)).text? path = some text := by
  obtain ⟨made, hmade, hwrite⟩ := h.exists_write
  obtain ⟨next, hnext⟩ := hwrite (Bytes.ofString text)
  rw [add, hmade, Option.bind_some, hnext]
  exact text?_of_write hnext

end FileTree

/-! ## Steps on a tree -/

section
variable {t next : FileTree} {path text : String}

theorem run_readText (t : FileTree) (path : String) :
    (readText path : StateM FileTree (Except Fault String)).run t
      = ((t.text? path).elim (.error .storage) .ok, t) := by
  have hread : (FileStore.read path : StateM FileTree (Option Bytes)).run t
      = pure (t.read path, t) := rfl
  rw [readText, StateT.run_bind, hread, pure_bind, FileTree.text?]
  dsimp only
  cases (t.read path).bind Bytes.toString? <;> rfl

theorem run_makeParents (h : t.makeParents path = some next) :
    (FileStore.makeParents path : StateM FileTree Bool).run t = (true, next) := by
  show t.attempt (t.makeParents path) = _
  rw [h]
  rfl

theorem run_writeText (h : t.write path (Bytes.ofString text) = some next) :
    (writeText path text : StateM FileTree (Except Fault Unit)).run t = (.ok (), next) := by
  have hwrite : (FileStore.write path (Bytes.ofString text) : StateM FileTree Bool).run t
      = (true, next) := by
    show t.attempt (t.write path (Bytes.ofString text)) = _
    rw [h]
    rfl
  rw [writeText, StateT.run_bind, hwrite]
  rfl

end
end PayChannel
