import Mathlib
import PayChannel.Proofs.Json.Objects

/-!
# JSON: records and lists of records

A record that has been written is read back as itself, and so is a list of records.

* `convert_self`    the values of a layout are values of it;
* `read_write`, `decode_write`, `decodeStart_self`    one record;
* `readRecords_written`, `decodeList_writeList`    a list of them.
-/

set_option linter.unusedSectionVars false

namespace PayChannel.Json

open Ascii

/-! ## Slots -/

theorem slotsAfter_cons {name : String} {kind : Kind} {fields written : Layout}
    (hname : name ∉ written.map Prod.fst) (vs : Values written) (slot : Option kind.Value)
    (slots : Slots fields) :
    slotsAfter ((name, kind) :: fields) written vs (slot, slots)
      = (slot, slotsAfter fields written vs slots) := by
  induction written generalizing slots with
  | nil => rfl
  | cons field rest ih =>
    obtain ⟨other, otherKind⟩ := field
    obtain ⟨v, vs⟩ := vs
    rw [List.map_cons, List.mem_cons, not_or] at hname
    have hset : setSlot ((name, kind) :: fields) (slot, slots) other otherKind v
        = (slot, setSlot fields slots other otherKind v) := if_neg hname.1
    rw [slotsAfter, slotsAfter, hset]
    exact ih hname.2 vs _

theorem convert_self {layout : Layout} (h : (layout.map Prod.fst).Nodup) (vs : Values layout) :
    convert layout vs layout = some vs := by
  induction layout with
  | nil => rfl
  | cons field fields ih =>
    obtain ⟨name, kind⟩ := field
    obtain ⟨v, vs⟩ := vs
    obtain ⟨hname, hrest⟩ := List.nodup_cons.mp h
    have hset : setSlot ((name, kind) :: fields) (noSlots ((name, kind) :: fields)) name kind v
        = (some v, noSlots fields) := by
      rw [noSlots, setSlot, if_pos rfl, dif_pos rfl]
    have hfields : allSlots? fields (slotsAfter fields fields vs (noSlots fields)) = some vs :=
      ih hrest vs
    rw [convert, slotsAfter, hset, slotsAfter_cons hname]
    simp only [allSlots?, hfields]

/-! ## Records -/

section
variable {α : Type} [Record α]

/-- a layout that can be read back: every kind fits, and no name stands twice -/
abbrev Readable (layout : Layout) : Prop := Compatible layout layout

theorem read_write (h : Readable (Record.layout α)) (a : α) (rest : Bytes) :
    read α (write a ++ rest) = .ok (a, rest) := by
  have hvalues := readValues_writeObject h (Record.values a) rest
  have hself := convert_self h.nodup (Record.values a)
  unfold convert at hself
  rw [finished, hself] at hvalues
  unfold read write
  rw [hvalues]
  exact congrArg (fun a => Except.ok (a, rest)) (Record.ofValues_values a)

/-- a text that holds a written record holds that record -/
theorem decode_write (h : Readable (Record.layout α)) (a : α) : decode α (write a) = .ok a := by
  have hread := read_write h a []
  rw [List.append_nil] at hread
  rw [decode, hread]
  rfl

theorem decodeStart_self (h : Readable (Record.layout α)) (a : α) :
    decodeStart α (write a) = .ok a := by
  have hread := read_write h a []
  rw [List.append_nil] at hread
  rw [decodeStart, hread]

/-! ## Lists -/

def elements (records : List α) : Bytes :=
  (records.flatMap fun a => comma :: write a) ++ [closeBracket]

theorem elements_cons (a : α) (rest : List α) :
    elements (a :: rest) = comma :: (write a ++ elements rest) := by
  unfold elements
  rw [List.flatMap_cons, List.cons_append, List.cons_append, List.append_assoc]

theorem length_lt_elements (records : List α) : records.length < (elements records).length := by
  induction records with
  | nil => exact Nat.one_pos
  | cons a rest ih =>
    rw [elements_cons, List.length_cons, List.length_cons, List.length_append]
    omega

theorem writeList_nil : writeList ([] : List α) = [openBracket, closeBracket] := rfl

theorem writeList_cons (a : α) (rest : List α) :
    writeList (a :: rest) = openBracket :: (write a ++ elements rest) := by
  show openBracket :: ((write a ++ rest.flatMap fun a => comma :: write a) ++ [closeBracket]) = _
  rw [List.append_assoc]
  rfl

theorem nextElement_end (isFirst : Bool) (rest : Bytes) :
    nextElement isFirst (closeBracket :: rest) = .ok (none, rest) := by
  rw [nextElement, skipBlanks_cons (by decide)]
  exact if_pos rfl

theorem nextElement_first (a : α) (rest : Bytes) :
    ∃ after, nextElement true (write a ++ rest) = .ok (some (write a ++ rest), after) := by
  have hwrite : ∃ tail, write a ++ rest = openBrace :: tail := ⟨_, rfl⟩
  obtain ⟨tail, htail⟩ := hwrite
  refine ⟨tail, ?_⟩
  rw [htail, nextElement, skipBlanks_cons (by decide)]
  show (if openBrace = closeBracket then _ else if true then _ else _) = _
  rw [if_neg (by decide), if_pos rfl]

theorem nextElement_next (a : α) (rest : Bytes) :
    ∃ after, nextElement false (comma :: (write a ++ rest))
      = .ok (some (write a ++ rest), after) := by
  have hwrite : ∃ tail, write a ++ rest = openBrace :: tail := ⟨_, rfl⟩
  obtain ⟨tail, htail⟩ := hwrite
  refine ⟨tail, ?_⟩
  rw [htail, nextElement, skipBlanks_cons (by decide)]
  show (if comma = closeBracket then _ else if false then _ else if comma = comma then _ else _) = _
  rw [if_neg (by decide), if_neg Bool.false_ne_true, if_pos rfl, skipBlanks_cons (by decide)]
  exact if_neg (by decide)

theorem readRecords_element (h : Readable (Record.layout α)) {a : α} {records : List α}
    {isFirst : Bool} {input rest after : Bytes} {steps : Nat}
    (hnext : nextElement isFirst input = .ok (some (write a ++ rest), after))
    (hrest : readRecords α steps false rest = .ok (records, [])) :
    readRecords α (steps + 1) isFirst input = .ok (a :: records, []) := by
  rw [readRecords, hnext]
  simp only [read_write h, hrest]

theorem readRecords_elements (h : Readable (Record.layout α)) (records : List α) {steps : Nat}
    (hsteps : records.length < steps) :
    readRecords α steps false (elements records) = .ok (records, []) := by
  induction records generalizing steps with
  | nil =>
    obtain ⟨steps, rfl⟩ := Nat.exists_eq_succ_of_ne_zero (Nat.ne_of_gt hsteps)
    have hend : nextElement false (elements ([] : List α)) = .ok (none, []) :=
      nextElement_end false []
    rw [readRecords, hend]
  | cons a rest ih =>
    obtain ⟨steps, rfl⟩ := Nat.exists_eq_succ_of_ne_zero (Nat.ne_zero_of_lt hsteps)
    obtain ⟨after, hnext⟩ := nextElement_next a (elements rest)
    rw [elements_cons]
    exact readRecords_element h hnext (ih (Nat.lt_of_succ_lt_succ hsteps))

theorem decodeList_writeList (h : Readable (Record.layout α)) (records : List α) :
    decodeList α (writeList records) = .ok records := by
  have hread : readList α (writeList records) = .ok (records, []) := by
    cases records with
    | nil =>
      rw [writeList_nil, readList, skipBlanks_cons (by decide)]
      show (if openBracket = openBracket then _ else _) = _
      rw [if_pos rfl]
      show readRecords α (0 + 1) true [closeBracket] = _
      rw [readRecords, nextElement_end]
    | cons a rest =>
      obtain ⟨after, hnext⟩ := nextElement_first a (elements rest)
      have hlen := length_lt_elements rest
      obtain ⟨steps, hsteps⟩ : ∃ steps, (write a ++ elements rest).length = steps + 1 :=
        ⟨_, rfl⟩
      have hwrite : 0 < (write a).length := Nat.succ_pos _
      rw [writeList_cons, readList, skipBlanks_cons (by decide)]
      show (if openBracket = openBracket then _ else _) = _
      rw [if_pos rfl, hsteps]
      rw [List.length_append] at hsteps
      exact readRecords_element h hnext (readRecords_elements h rest (by omega))
  rw [decodeList, hread]
  rfl

end

end PayChannel.Json
