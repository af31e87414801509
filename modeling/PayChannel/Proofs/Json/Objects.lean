import Mathlib
import PayChannel.Json.Record
import PayChannel.Proofs.Json.Values

/-!
# JSON: an object read as another record

A reader looks for the fields of its own layout and skips all other members.  So a record that was
written with one layout is read with another as far as names and kinds agree, and it is unfit if a
field is missing.

* `Compatible`    the fields that two layouts share have the same kinds;
* `convert`    the values of one layout as far as they are values of another;
* `readMember_written`, `readMembers_written`    one member, and all of them;
* `decodeStart_write`    a whole record.
-/

set_option linter.unusedSectionVars false

namespace PayChannel.Json

open Ascii

deriving instance DecidableEq for Kind

instance (kind : Kind) : Decidable kind.Fits := by
  cases kind with
  | word bits => exact inferInstanceAs (Decidable (bits ≤ 64))
  | amount => exact isTrue trivial
  | account => exact isTrue trivial
  | octets => exact isTrue trivial
  | text => exact isTrue trivial

/-! ## Slots -/

/-- the slots after one more member; it goes to the field of its name, if there is one -/
def setSlot : (layout : Layout) → Slots layout → (name : String) → (kind : Kind) → kind.Value →
    Slots layout
  | [], _, _, _, _ => ()
  | (field, fieldKind) :: fields, (slot, slots), name, kind, v =>
    if field = name then
      (if h : kind = fieldKind then some (h ▸ v) else slot, slots)
    else (slot, setSlot fields slots name kind v)

/-- the slots of a layout after all members that another layout writes -/
def slotsAfter (layout : Layout) : (written : Layout) → Values written → Slots layout →
    Slots layout
  | [], _, slots => slots
  | (name, kind) :: fields, (v, vs), slots =>
    slotsAfter layout fields vs (setSlot layout slots name kind v)

/-- the values of one layout as values of another, if all of its fields are there -/
def convert (written : Layout) (vs : Values written) (layout : Layout) : Option (Values layout) :=
  allSlots? layout (slotsAfter layout written vs (noSlots layout))

def Vacant : (layout : Layout) → Slots layout → String → Prop
  | [], _, _ => True
  | (field, _) :: fields, (slot, slots), name =>
    if field = name then slot = none else Vacant fields slots name

theorem vacant_noSlots (layout : Layout) (name : String) : Vacant layout (noSlots layout) name := by
  induction layout with
  | nil => trivial
  | cons field fields ih =>
    obtain ⟨fieldName, fieldKind⟩ := field
    unfold Vacant noSlots
    dsimp only
    split
    · rfl
    · exact ih

theorem vacant_setSlot {layout : Layout} {slots : Slots layout} {name other : String}
    (hne : other ≠ name) (h : Vacant layout slots other) (kind : Kind) (v : kind.Value) :
    Vacant layout (setSlot layout slots name kind v) other := by
  induction layout with
  | nil => trivial
  | cons field fields ih =>
    obtain ⟨fieldName, fieldKind⟩ := field
    obtain ⟨slot, slots⟩ := slots
    unfold Vacant at h
    unfold setSlot
    by_cases hf : fieldName = name
    · have hother : fieldName ≠ other := fun he => hne (he.symm.trans hf)
      rw [if_neg hother] at h
      rw [if_pos hf]
      unfold Vacant
      rw [if_neg hother]
      exact h
    · rw [if_neg hf]
      unfold Vacant
      by_cases hother : fieldName = other
      · rw [if_pos hother] at h ⊢
        exact h
      · rw [if_neg hother] at h ⊢
        exact ih h

/-! ## One member -/

theorem ofString_injective {s t : String} (h : Bytes.ofString s = Bytes.ofString t) : s = t := by
  have hs := Bytes.toString?_ofString s
  rw [h, Bytes.toString?_ofString] at hs
  exact (Option.some.inj hs).symm

theorem readColon_colon (rest : Bytes) : readColon (colon :: rest) = .ok rest := by
  rw [readColon, skipBlanks_cons (by decide)]
  exact if_pos rfl

/-- a member that has been written fills the slot of its name, or is skipped -/
theorem readMember_written {layout : Layout} {slots : Slots layout} {name : String} {kind : Kind}
    (hfits : kind.Fits) (hagree : ∀ f ∈ layout, f.1 = name → f.2 = kind)
    (hvacant : Vacant layout slots name) (v : kind.Value) {rest : Bytes} (h : Stops rest) :
    readMember layout slots (Bytes.ofString name) (colon :: (kind.write v ++ rest))
      = .ok (setSlot layout slots name kind v, rest) := by
  induction layout with
  | nil =>
    have htext : isText (Bytes.ofString name) = true := by
      rw [isText, Bytes.toString?_ofString]
      rfl
    simp only [readMember, htext, readColon_colon, skipValue_write kind v h]
    rfl
  | cons field fields ih =>
    obtain ⟨fieldName, fieldKind⟩ := field
    obtain ⟨slot, slots⟩ := slots
    unfold Vacant at hvacant
    unfold setSlot
    by_cases hf : fieldName = name
    · obtain rfl : fieldKind = kind := hagree _ List.mem_cons_self hf
      subst hf
      rw [if_pos rfl] at hvacant
      subst hvacant
      simp only [readMember, readColon_colon, Kind.read_write fieldKind hfits v h, if_true,
        dif_pos]
    · have hname : Bytes.ofString name ≠ Bytes.ofString fieldName :=
        fun he => hf (ofString_injective he).symm
      rw [if_neg hf] at hvacant
      have hrest := ih (fun f hmem => hagree f (List.mem_cons_of_mem _ hmem)) hvacant
      simp only [readMember, if_neg hname, if_neg hf, hrest]

/-! ## All members -/

/-- two layouts can be written and read: kinds fit, shared fields have the same kind, and no name is
written twice -/
structure Compatible (written layout : Layout) : Prop where
  fits : ∀ f ∈ written, f.2.Fits
  agree : ∀ f ∈ written, ∀ g ∈ layout, g.1 = f.1 → g.2 = f.2
  nodup : (written.map Prod.fst).Nodup

instance (written layout : Layout) : Decidable (Compatible written layout) :=
  decidable_of_iff ((∀ f ∈ written, f.2.Fits) ∧
      (∀ f ∈ written, ∀ g ∈ layout, g.1 = f.1 → g.2 = f.2) ∧ (written.map Prod.fst).Nodup)
    ⟨fun ⟨h1, h2, h3⟩ => ⟨h1, h2, h3⟩, fun h => ⟨h.fits, h.agree, h.nodup⟩⟩

theorem Compatible.tail {field : String × Kind} {written layout : Layout}
    (h : Compatible (field :: written) layout) : Compatible written layout :=
  ⟨fun f hf => h.fits f (List.mem_cons_of_mem _ hf),
    fun f hf => h.agree f (List.mem_cons_of_mem _ hf), (List.nodup_cons.mp h.nodup).2⟩

theorem Compatible.ne_head {name : String} {kind : Kind} {fields layout : Layout}
    (h : Compatible ((name, kind) :: fields) layout) {f : String × Kind} (hf : f ∈ fields) :
    f.1 ≠ name := by
  intro he
  have hmem : f.1 ∈ fields.map Prod.fst := List.mem_map_of_mem hf
  rw [he] at hmem
  exact (List.nodup_cons.mp h.nodup).1 hmem

def finished (layout : Layout) (slots : Slots layout) (tail : Bytes) : Scanned (Values layout) :=
  match allSlots? layout slots with
  | none => .error .unfit
  | some vs => .ok (vs, tail)

theorem writeMembers_cons (name : String) (kind : Kind) (fields : Layout) (v : kind.Value)
    (vs : Values fields) (tail : Bytes) :
    writeMembers ((name, kind) :: fields) (v, vs) ++ tail
      = comma :: quote :: ((Bytes.ofString name).flatMap escape ++ quote ::
          colon :: (kind.write v ++ (writeMembers fields vs ++ tail))) := by
  rw [writeMembers]
  simp only [writeQuoted, List.cons_append, List.append_assoc, List.nil_append]

theorem stops_writeMembers (fields : Layout) (vs : Values fields) (tail : Bytes) :
    Stops (writeMembers fields vs ++ closeBrace :: tail) := by
  cases fields with
  | nil => exact ⟨closeBrace, tail, rfl, .inr rfl⟩
  | cons field fields =>
    obtain ⟨name, kind⟩ := field
    obtain ⟨v, vs⟩ := vs
    rw [writeMembers_cons]
    exact ⟨comma, _, rfl, .inl rfl⟩

theorem readMembers_end (layout : Layout) (steps : Nat) (isFirst : Bool) (slots : Slots layout)
    (tail : Bytes) :
    readMembers layout (steps + 1) isFirst slots (closeBrace :: tail)
      = finished layout slots tail := by
  have hnext : nextMember isFirst (closeBrace :: tail) = .ok (none, tail) := by
    rw [nextMember, skipBlanks_cons (by decide)]
    exact if_pos rfl
  rw [readMembers, hnext]
  rfl

theorem readMembers_member {layout : Layout} {slots : Slots layout} {name : String} {kind : Kind}
    (hfits : kind.Fits) (hagree : ∀ f ∈ layout, f.1 = name → f.2 = kind)
    (hvacant : Vacant layout slots name) (v : kind.Value) {input rest after : Bytes}
    {isFirst : Bool} (h : Stops rest)
    (hnext : nextMember isFirst input = .ok (some ((Bytes.ofString name).flatMap escape ++
      quote :: colon :: (kind.write v ++ rest)), after)) (steps : Nat) :
    readMembers layout (steps + 1) isFirst slots input
      = readMembers layout steps false (setSlot layout slots name kind v) rest := by
  rw [readMembers, hnext]
  simp only [readChars_escaped, readMember_written hfits hagree hvacant v h]

theorem readMembers_written {written layout : Layout} (hc : Compatible written layout)
    (vs : Values written) {slots : Slots layout} (hvacant : ∀ f ∈ written, Vacant layout slots f.1)
    {steps : Nat} (hsteps : written.length < steps) (tail : Bytes) :
    readMembers layout steps false slots (writeMembers written vs ++ closeBrace :: tail)
      = finished layout (slotsAfter layout written vs slots) tail := by
  induction written generalizing slots steps with
  | nil =>
    obtain ⟨steps, rfl⟩ := Nat.exists_eq_succ_of_ne_zero (Nat.ne_of_gt hsteps)
    exact readMembers_end layout steps false slots tail
  | cons field fields ih =>
    obtain ⟨name, kind⟩ := field
    obtain ⟨v, vs⟩ := vs
    obtain ⟨steps, rfl⟩ := Nat.exists_eq_succ_of_ne_zero (Nat.ne_zero_of_lt hsteps)
    have hnext : ∀ rest : Bytes,
        nextMember false (comma :: quote :: rest) = .ok (some rest, rest) := by
      intro rest
      rw [nextMember, skipBlanks_cons (by decide)]
      show (if comma = closeBrace then _ else if false then _ else
        if comma = comma then _ else _) = _
      rw [if_neg (by decide), if_neg Bool.false_ne_true, if_pos rfl,
        skipBlanks_cons (by decide)]
      exact if_pos rfl
    have hagree : ∀ g ∈ layout, g.1 = name → g.2 = kind := hc.agree (name, kind) List.mem_cons_self
    rw [writeMembers_cons, readMembers_member (hc.fits _ List.mem_cons_self) hagree
      (hvacant _ List.mem_cons_self) v (stops_writeMembers fields vs tail) (hnext _)]
    refine ih hc.tail vs (fun f hf => ?_) (Nat.lt_of_succ_lt_succ hsteps)
    exact vacant_setSlot (hc.ne_head hf) (hvacant f (List.mem_cons_of_mem _ hf)) kind v

/-! ## Records -/

theorem length_le_writeMembers (written : Layout) (vs : Values written) :
    2 * written.length ≤ (writeMembers written vs).length := by
  induction written with
  | nil => exact Nat.le_refl 0
  | cons field fields ih =>
    obtain ⟨name, kind⟩ := field
    obtain ⟨v, vs⟩ := vs
    have h := ih vs
    have hcons := writeMembers_cons name kind fields v vs []
    rw [List.append_nil] at hcons
    rw [hcons]
    simp only [List.length_cons, List.length_append, List.append_nil]
    omega

/-- an object that one layout writes, read with another -/
theorem readValues_writeObject {written layout : Layout} (hc : Compatible written layout)
    (vs : Values written) (tail : Bytes) :
    readValues layout (writeObject (writeMembers written vs) ++ tail)
      = finished layout (slotsAfter layout written vs (noSlots layout)) tail := by
  have hobject : writeObject (writeMembers written vs) ++ tail
      = openBrace :: ((writeMembers written vs).drop 1 ++ closeBrace :: tail) := by
    simp only [writeObject, List.cons_append, List.append_assoc, List.nil_append]
  rw [hobject, readValues, skipBlanks_cons (by decide)]
  show (if openBrace = openBrace then _ else _) = _
  rw [if_pos rfl]
  cases written with
  | nil => exact readMembers_end layout tail.length true (noSlots layout) tail
  | cons field fields =>
    obtain ⟨name, kind⟩ := field
    obtain ⟨v, vs⟩ := vs
    have hcons := writeMembers_cons name kind fields v vs (closeBrace :: tail)
    have hdrop : (writeMembers ((name, kind) :: fields) (v, vs)).drop 1 ++ closeBrace :: tail
        = quote :: ((Bytes.ofString name).flatMap escape ++ quote ::
            colon :: (kind.write v ++ (writeMembers fields vs ++ closeBrace :: tail))) := by
      rw [writeMembers]
      simp only [writeQuoted, List.cons_append, List.append_assoc, List.nil_append, List.drop_succ_cons,
        List.drop_zero]
    have hnext : ∀ rest : Bytes, nextMember true (quote :: rest) = .ok (some rest, rest) := by
      intro rest
      rw [nextMember, skipBlanks_cons (by decide)]
      show (if quote = closeBrace then _ else if true then _ else _) = _
      rw [if_neg (by decide), if_pos rfl]
      exact if_pos rfl
    have hagree : ∀ g ∈ layout, g.1 = name → g.2 = kind := hc.agree (name, kind) List.mem_cons_self
    have hlen := length_le_writeMembers fields vs
    rw [hdrop, List.length_cons, readMembers_member (hc.fits _ List.mem_cons_self) hagree
      (vacant_noSlots layout name) v (stops_writeMembers fields vs tail) (hnext _)]
    refine readMembers_written hc.tail vs (fun f hf => ?_) ?_ tail
    · exact vacant_setSlot (hc.ne_head hf) (vacant_noSlots layout f.1) kind v
    · simp only [List.length_cons, List.length_append]
      omega

/-- a record of one type, read as a record of another -/
theorem decodeStart_write {α β : Type} [Record α] [Record β]
    (hc : Compatible (Record.layout α) (Record.layout β)) (a : α) :
    decodeStart β (write a)
      = match convert (Record.layout α) (Record.values a) (Record.layout β) with
        | none => .error .unfit
        | some vs => .ok (Record.ofValues vs) := by
  have h := readValues_writeObject hc (Record.values a) []
  rw [List.append_nil] at h
  have hread : readValues (Record.layout β) (write a) = finished (Record.layout β)
      (slotsAfter (Record.layout β) (Record.layout α) (Record.values a) (noSlots _)) [] := h
  unfold decodeStart read convert
  rw [hread, finished]
  cases allSlots? (Record.layout β) (slotsAfter (Record.layout β) (Record.layout α)
      (Record.values a) (noSlots _)) with
  | none => rfl
  | some vs => rfl

end PayChannel.Json
