import Mathlib
import PayChannel.Proofs.Toml.Lines

/-!
# TOML: documents that are written as entries and the tables of one list

A document of the kind that is written here has lines with entries first, and then the tables of a
list, each after a blank line and a header.  Reading it gives the entries in the order of their
lines and, if there is a table, the list after them.

* `Lines.reads`, `Tables.reads`    the sections of such a document;
* `addPairs_fresh`, `foldlM_addSection`    sections whose keys differ become entries as they are;
* `parse_lines`, `parse_tables`    the whole of it.
-/

set_option linter.unusedSectionVars false

namespace PayChannel.Toml

/-! ## Lines one after another -/

/-- lines that add entries in turn -/
inductive Lines : List Char → Entries → Prop
  | nil : Lines [] []
  | cons {chars more : List Char} {entry : String × Value} {entries : Entries}
      (first : Line chars entry) (rest : Lines more entries) :
      Lines (chars ++ more) (entry :: entries)

theorem Line.lines {chars : List Char} {entry : String × Value} (h : Line chars entry) :
    Lines chars [entry] := by
  have hlines := Lines.cons h .nil
  rwa [List.append_nil] at hlines

theorem Lines.append {chars more : List Char} {entries others : Entries}
    (h : Lines chars entries) (hmore : Lines more others) :
    Lines (chars ++ more) (entries ++ others) := by
  induction h with
  | nil => exact hmore
  | cons first _ ih =>
    rw [List.append_assoc]
    exact .cons first ih

theorem Lines.length_le {chars : List Char} {entries : Entries} (h : Lines chars entries) :
    entries.length ≤ chars.length := by
  induction h with
  | nil => exact Nat.le_refl 0
  | cons first _ ih =>
    obtain ⟨c, tail, rfl, -⟩ := first.head
    rw [List.length_cons, List.length_append, List.length_cons]
    omega

/-- lines add their entries to the section that is being read, one step for each of them -/
theorem Lines.reads {chars : List Char} {entries : Entries} (h : Lines chars entries)
    (steps : Nat) (current : Section) (rest : List Char) :
    readSections (steps + entries.length) current (chars ++ rest)
      = readSections steps
          { current with pairs := (entries.map pairOf).reverse ++ current.pairs } rest := by
  induction h generalizing current with
  | nil => rfl
  | cons first _ ih =>
    rw [List.append_assoc, List.length_cons, ← Nat.add_assoc, first.reads, ih]
    simp only [List.map_cons, List.reverse_cons, List.append_assoc, List.singleton_append]

/-- no line begins with the mark of a byte order -/
theorem skipMark_bare {c : Char} (h : isBare c = true) (rest : List Char) :
    skipMark (c :: rest) = c :: rest := by
  refine if_neg fun hmark => ?_
  have hc : c = Char.ofNat 0xFEFF := by rw [← hmark, Char.ofNat_toNat]
  exact ne_of_test h (by decide) hc

/-! ## Tables after lines -/

def headerChars (key : String) : List Char :=
  '\n' :: '[' :: '[' :: (key.toList ++ [']', ']', '\n'])

/-- the tables of a list, the keys of each of which differ -/
inductive Tables (key : String) : List Char → List Entries → Prop
  | nil : Tables key [] []
  | cons {chars more : List Char} {entries : Entries} {tables : List Entries}
      (lines : Lines chars entries) (distinct : (entries.map Prod.fst).Nodup)
      (rest : Tables key more tables) :
      Tables key (headerChars key ++ (chars ++ more)) (entries :: tables)

def tableSection (key : String) (entries : Entries) : Section :=
  ⟨true, [key], entries.map pairOf⟩

/-- the section that is being read ends where the tables begin -/
theorem Tables.reads {key : String} (hkey : Bare key) {chars : List Char} {tables : List Entries}
    (h : Tables key chars tables) {steps : Nat} (hsteps : chars.length < steps)
    (current : Section) :
    readSections steps current chars = some
      ({ current with pairs := current.pairs.reverse } :: tables.map (tableSection key)) := by
  induction h generalizing steps current with
  | nil =>
    obtain ⟨steps, rfl⟩ := Nat.exists_eq_succ_of_ne_zero (Nat.ne_zero_of_lt hsteps)
    exact readSections_end steps current
  | @cons chars more entries tables lines _ _ ih =>
    have hlength := lines.length_le
    simp only [headerChars, List.length_append, List.length_cons] at hsteps
    obtain ⟨left, rfl⟩ : ∃ left, steps = left + entries.length + 1 + 1 :=
      ⟨steps - (entries.length + 2), by omega⟩
    have hinput : headerChars key ++ (chars ++ more)
        = '\n' :: '[' :: '[' :: (key.toList ++ ']' :: ']' :: '\n' :: (chars ++ more)) := by
      simp only [headerChars, List.cons_append, List.append_assoc, List.nil_append]
    rw [hinput, readSections_blank, readSections_header hkey, lines.reads, ih (by omega)]
    simp only [List.append_nil, List.reverse_reverse, Option.map_some, List.map_cons, tableSection]

/-! ## Entries of a table -/

namespace Table

theorem get?_eq_none {entries : Entries} {key : String} (h : key ∉ entries.map Prod.fst) :
    get? entries key = none := by
  rw [get?, Option.map_eq_none_iff, List.find?_eq_none]
  intro e he hkey
  exact h (List.mem_map.mpr ⟨e, he, of_decide_eq_true hkey⟩)

theorem get?_append {entries : Entries} {key : String} (h : key ∉ entries.map Prod.fst) (v : Value)
    (rest : Entries) : get? (entries ++ (key, v) :: rest) key = some v := by
  induction entries with
  | nil => simp [get?]
  | cons e entries ih =>
    have hmem := fun hkey => h (List.mem_cons_of_mem e.1 hkey)
    have hne : e.1 ≠ key := fun he => h (he ▸ List.mem_cons_self)
    rw [get?, List.cons_append, List.find?_cons_of_neg (by simpa using hne)]
    exact ih hmem

theorem set_append {entries : Entries} {key : String} (h : key ∉ entries.map Prod.fst)
    (old : Entries) (v : Value) : set (entries ++ old) key v = entries ++ set old key v := by
  induction entries with
  | nil => rfl
  | cons e entries ih =>
    have hmem := fun hkey => h (List.mem_cons_of_mem e.1 hkey)
    have hne : e.1 ≠ key := fun he => h (he ▸ List.mem_cons_self)
    rw [List.cons_append, set, if_neg hne, ih hmem, List.cons_append]

/-- a key that is not there yet gets its value at the end -/
theorem set_fresh {entries : Entries} {key : String} (h : key ∉ entries.map Prod.fst) (v : Value) :
    set entries key v = entries ++ [(key, v)] := by
  have hset := set_append h [] v
  rwa [List.append_nil] at hset

theorem set_last {entries : Entries} {key : String} (h : key ∉ entries.map Prod.fst)
    (old new : Value) : set (entries ++ [(key, old)]) key new = entries ++ [(key, new)] := by
  rw [set_append h, set, if_pos rfl]

theorem addPair_fresh {entries : Entries} {entry : String × Value}
    (h : entry.1 ∉ entries.map Prod.fst) :
    addPair .header entries (pairOf entry) = some (entries ++ [entry]) := by
  have horigin : ¬ decide (Origin.header = .dotted) = ([] : List String).isEmpty := by decide
  have hget : ¬ (get? entries entry.1).isSome := by
    rw [get?_eq_none h]
    exact Bool.false_ne_true
  show (if decide (Origin.header = .dotted) = ([] : List String).isEmpty then none
    else if (get? entries entry.1).isSome then none
    else some (set entries entry.1 entry.2)) = _
  rw [if_neg horigin, if_neg hget, set_fresh h]

/-- lines whose keys differ become entries as they are -/
theorem addPairs_fresh {entries more : Entries}
    (h : ((entries ++ more).map Prod.fst).Nodup) :
    addPairs .header entries (more.map pairOf) = some (entries ++ more) := by
  induction more generalizing entries with
  | nil => exact congrArg some (List.append_nil entries).symm
  | cons entry more ih =>
    have hmap : (entries ++ entry :: more).map Prod.fst
        = entries.map Prod.fst ++ entry.1 :: more.map Prod.fst := by
      rw [List.map_append, List.map_cons]
    have hfresh : entry.1 ∉ entries.map Prod.fst := by
      rw [hmap] at h
      exact fun hmem => (List.nodup_append.mp h).2.2 _ hmem _ List.mem_cons_self rfl
    have happend : entries ++ entry :: more = (entries ++ [entry]) ++ more := by
      rw [List.append_assoc, List.singleton_append]
    rw [happend] at h ⊢
    show (addPair .header entries (pairOf entry)).bind
      (fun next => addPairs .header next (more.map pairOf)) = _
    rw [addPair_fresh hfresh, Option.bind_some, ih h]

theorem addPairs_nil {entries : Entries} (h : (entries.map Prod.fst).Nodup) :
    addPairs .header [] (entries.map pairOf) = some entries :=
  addPairs_fresh h

theorem addSection_top {entries : Entries} (h : (entries.map Prod.fst).Nodup) :
    addSection [] ⟨false, [], entries.map pairOf⟩ = some entries :=
  addPairs_nil h

theorem addSection_table (document : Entries) (key : String) {entries : Entries}
    (h : (entries.map Prod.fst).Nodup) :
    addSection document (tableSection key entries) = match get? document key with
      | none => some (set document key (.tables [entries]))
      | some (.tables tables) => some (set document key (.tables (tables ++ [entries])))
      | some _ => none := by
  show (match get? document key with
    | none => (addPairs .header [] (entries.map pairOf)).map fun t =>
        set document key (.tables [t])
    | some (.tables tables) => (addPairs .header [] (entries.map pairOf)).map fun t =>
        set document key (.tables (tables ++ [t]))
    | some _ => none) = _
  rw [addPairs_nil h]
  rfl

theorem addSection_first {document entries : Entries} {key : String}
    (hkey : key ∉ document.map Prod.fst) (h : (entries.map Prod.fst).Nodup) :
    addSection document (tableSection key entries)
      = some (document ++ [(key, .tables [entries])]) := by
  rw [addSection_table document key h, get?_eq_none hkey, set_fresh hkey]

theorem addSection_next {document entries : Entries} {key : String} {tables : List Entries}
    (hkey : key ∉ document.map Prod.fst) (h : (entries.map Prod.fst).Nodup) :
    addSection (document ++ [(key, Value.tables tables)]) (tableSection key entries)
      = some (document ++ [(key, .tables (tables ++ [entries]))]) := by
  rw [addSection_table _ key h, get?_append hkey]
  dsimp only
  rw [set_last hkey]

end Table

/-! ## Documents -/

theorem foldlM_addSection {document : Entries} {key : String}
    (hkey : key ∉ document.map Prod.fst) {chars : List Char} {more : List Entries}
    (h : Tables key chars more) (tables : List Entries) :
    (more.map (tableSection key)).foldlM Table.addSection (document ++ [(key, .tables tables)])
      = some (document ++ [(key, .tables (tables ++ more))]) := by
  induction h generalizing tables with
  | nil =>
    rw [List.append_nil]
    rfl
  | @cons chars more entries others _ distinct _ ih =>
    rw [List.map_cons, List.foldlM_cons, Table.addSection_next hkey distinct]
    show List.foldlM _ (document ++ [(key, Value.tables (tables ++ [entries]))]) _ = _
    rw [ih, List.append_assoc, List.singleton_append]

theorem parse_sections {text key : String} (hkey : Bare key) {chars more : List Char}
    {entries : Entries} {tables : List Entries} (hlines : Lines chars entries)
    (hnonempty : entries ≠ []) (htables : Tables key more tables)
    (htext : text.toList = chars ++ more) :
    parse text
      = (⟨false, [], entries.map pairOf⟩ :: tables.map (tableSection key)).foldlM
          Table.addSection [] := by
  have hmark : skipMark text.toList = text.toList := by
    rw [htext]
    cases hlines with
    | nil => exact absurd rfl hnonempty
    | cons first _ =>
      obtain ⟨c, tail, rfl, hc⟩ := first.head
      exact skipMark_bare hc _
  have hlength := hlines.length_le
  obtain ⟨left, hleft⟩ : ∃ left, (chars ++ more).length + 1 = left + entries.length := by
    rw [List.length_append]
    exact ⟨chars.length + more.length + 1 - entries.length, by omega⟩
  have hsteps : more.length < left := by
    rw [List.length_append] at hleft
    omega
  have hsections : readSections (text.toList.length + 1) ⟨false, [], []⟩ text.toList
      = some (⟨false, [], entries.map pairOf⟩ :: tables.map (tableSection key)) := by
    rw [htext, hleft, hlines.reads, htables.reads hkey hsteps]
    simp only [List.append_nil, List.reverse_reverse]
  rw [parse, hmark, hsections]

/-- lines whose keys differ are read as their entries -/
theorem parse_lines {text : String} {entries : Entries} (hlines : Lines text.toList entries)
    (hnonempty : entries ≠ []) (hdistinct : (entries.map Prod.fst).Nodup) :
    parse text = some entries := by
  have hbare : Bare "a" := by decide
  rw [parse_sections hbare hlines hnonempty .nil (List.append_nil _).symm, List.foldlM_cons,
    Table.addSection_top hdistinct]
  rfl

/-- tables after lines are read as one list under their key, in their order -/
theorem parse_tables {text key : String} (hkey : Bare key) {chars more : List Char}
    {entries first : Entries} {tables : List Entries} (hlines : Lines chars entries)
    (hnonempty : entries ≠ []) (hdistinct : (entries.map Prod.fst).Nodup)
    (hother : key ∉ entries.map Prod.fst) (htables : Tables key more (first :: tables))
    (htext : text.toList = chars ++ more) :
    parse text = some (entries ++ [(key, .tables (first :: tables))]) := by
  rw [parse_sections hkey hlines hnonempty htables htext, List.foldlM_cons,
    Table.addSection_top hdistinct]
  cases htables with
  | cons _ distinct rest =>
    show List.foldlM Table.addSection entries
      (tableSection key first :: tables.map (tableSection key)) = _
    rw [List.foldlM_cons, Table.addSection_first hother distinct]
    exact foldlM_addSection hother rest [first]

end PayChannel.Toml
