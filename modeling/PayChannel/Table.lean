import PayChannel.Bytes

/-!
# Tables sorted by key

A table holds at most one value per key and lists its entries in the order of the keys' byte
strings.  The order is part of the type, so that two tables with the same look-ups are equal.

* `get?_insert`, `get?_erase`, `get?_retain`    what the operations do to look-ups;
* `get?_eq_some_iff`    a look-up finds exactly the listed entries;
* `ext_get?`    look-ups determine the table;
* `keys_sorted`    the keys are listed in strictly increasing byte order.
-/

set_option linter.unusedSectionVars false

namespace PayChannel

/-- keys that are told apart, and ordered, by a byte string of their own -/
class ByteKey (κ : Type) where
  keyBytes : κ → Bytes
  keyBytes_injective : ∀ a b : κ, keyBytes a = keyBytes b → a = b

namespace ByteKey

variable {κ : Type} [ByteKey κ]

/-- the order of keys: that of their byte strings, first difference first -/
def before (a b : κ) : Prop :=
  keyBytes a < keyBytes b

instance (a b : κ) : Decidable (before a b) :=
  inferInstanceAs (Decidable (keyBytes a < keyBytes b))

theorem before_irrefl (a : κ) : ¬ before a a :=
  List.lex_irrefl (fun x : UInt8 => UInt8.lt_irrefl x) (keyBytes a)

theorem before_trans {a b c : κ} (h1 : before a b) (h2 : before b c) : before a c :=
  List.lex_trans (fun hx hy => UInt8.lt_trans hx hy) h1 h2

theorem bytes_lt_or_eq_or_gt (x y : Bytes) : x < y ∨ x = y ∨ y < x := by
  induction x generalizing y with
  | nil =>
    cases y with
    | nil => exact Or.inr (Or.inl rfl)
    | cons b y => exact Or.inl List.Lex.nil
  | cons a x ih =>
    cases y with
    | nil => exact Or.inr (Or.inr List.Lex.nil)
    | cons b y =>
      by_cases hab : a = b
      · subst hab
        rcases ih y with h | h | h
        · exact Or.inl (List.Lex.cons h)
        · exact Or.inr (Or.inl (congrArg (a :: ·) h))
        · exact Or.inr (Or.inr (List.Lex.cons h))
      · have hn : a.toNat ≠ b.toNat := fun h => hab (UInt8.toNat_inj.mp h)
        rcases Nat.lt_or_gt_of_ne hn with h | h
        · exact Or.inl (List.Lex.rel (UInt8.lt_iff_toNat_lt.mpr h))
        · exact Or.inr (Or.inr (List.Lex.rel (UInt8.lt_iff_toNat_lt.mpr h)))

theorem before_or_eq_or_after (a b : κ) : before a b ∨ a = b ∨ before b a := by
  rcases bytes_lt_or_eq_or_gt (keyBytes a) (keyBytes b) with h | h | h
  · exact Or.inl h
  · exact Or.inr (Or.inl (keyBytes_injective a b h))
  · exact Or.inr (Or.inr h)

theorem ne_of_before {a b : κ} (h : before a b) : a ≠ b := by
  rintro rfl
  exact before_irrefl a h

end ByteKey

open ByteKey

instance : ByteKey Bytes where
  keyBytes := id
  keyBytes_injective := fun _ _ h => h

/-! ## Entry lists -/

namespace Entries

variable {κ ν : Type} [ByteKey κ] [DecidableEq κ]

def lookup (k : κ) : List (κ × ν) → Option ν
  | [] => none
  | (k', v) :: rest => if k = k' then some v else lookup k rest

def put (k : κ) (v : ν) : List (κ × ν) → List (κ × ν)
  | [] => [(k, v)]
  | (k', v') :: rest =>
    if before k k' then (k, v) :: (k', v') :: rest
    else if k = k' then (k, v) :: rest
    else (k', v') :: put k v rest

/-- keys strictly increase along the list -/
def Sorted (entries : List (κ × ν)) : Prop :=
  entries.Pairwise fun x y => before x.1 y.1

theorem lookup_nil (k : κ) : lookup k ([] : List (κ × ν)) = none := rfl

theorem lookup_cons (k k' : κ) (v : ν) (rest : List (κ × ν)) :
    lookup k ((k', v) :: rest) = if k = k' then some v else lookup k rest := rfl

theorem mem_of_lookup {k : κ} {v : ν} {entries : List (κ × ν)} (h : lookup k entries = some v) :
    (k, v) ∈ entries := by
  induction entries with
  | nil => cases h
  | cons e rest ih =>
    obtain ⟨k', v'⟩ := e
    rw [lookup_cons] at h
    split at h
    · rename_i hk
      cases h
      exact hk ▸ List.mem_cons_self
    · exact List.mem_cons_of_mem _ (ih h)

theorem lookup_eq_none {k : κ} {entries : List (κ × ν)} (h : ∀ e, e ∈ entries → e.1 ≠ k) :
    lookup k entries = none := by
  induction entries with
  | nil => rfl
  | cons e rest ih =>
    obtain ⟨k', v'⟩ := e
    rw [lookup_cons, if_neg (fun hk => h _ List.mem_cons_self hk.symm)]
    exact ih fun e he => h e (List.mem_cons_of_mem _ he)

theorem lookup_of_mem {k : κ} {v : ν} {entries : List (κ × ν)} (hs : Sorted entries)
    (h : (k, v) ∈ entries) : lookup k entries = some v := by
  induction entries with
  | nil => cases h
  | cons e rest ih =>
    obtain ⟨k', v'⟩ := e
    obtain ⟨hhead, htail⟩ := List.pairwise_cons.mp hs
    rw [lookup_cons]
    rcases List.mem_cons.mp h with he | he
    · cases he
      exact if_pos rfl
    · rw [if_neg (fun hk => ne_of_before (hhead _ he) hk.symm)]
      exact ih htail he

theorem lookup_put (k k' : κ) (v : ν) (entries : List (κ × ν)) :
    lookup k' (put k v entries) = if k' = k then some v else lookup k' entries := by
  induction entries with
  | nil => rfl
  | cons e rest ih =>
    obtain ⟨k0, v0⟩ := e
    unfold put
    split
    · rw [lookup_cons]
    · split
      · rename_i hk
        subst hk
        rw [lookup_cons, lookup_cons]
        split <;> rfl
      · rename_i hk
        rw [lookup_cons, lookup_cons, ih]
        by_cases h0 : k' = k0
        · rw [if_pos h0, if_pos h0, if_neg (fun h => hk (h.symm.trans h0))]
        · rw [if_neg h0, if_neg h0]

theorem mem_put {k : κ} {v : ν} {e : κ × ν} {entries : List (κ × ν)} (h : e ∈ put k v entries) :
    e = (k, v) ∨ e ∈ entries := by
  induction entries with
  | nil => exact Or.inl (List.mem_singleton.mp h)
  | cons e0 rest ih =>
    obtain ⟨k0, v0⟩ := e0
    unfold put at h
    split at h
    · exact List.mem_cons.mp h
    · split at h
      · rcases List.mem_cons.mp h with h | h
        · exact Or.inl h
        · exact Or.inr (List.mem_cons_of_mem _ h)
      · rcases List.mem_cons.mp h with h | h
        · exact Or.inr (h ▸ List.mem_cons_self)
        · exact (ih h).imp_right (List.mem_cons_of_mem _)

theorem sorted_put {k : κ} {v : ν} {entries : List (κ × ν)} (hs : Sorted entries) :
    Sorted (put k v entries) := by
  induction entries with
  | nil => exact List.pairwise_singleton _ _
  | cons e0 rest ih =>
    obtain ⟨k0, v0⟩ := e0
    obtain ⟨hhead, htail⟩ := List.pairwise_cons.mp hs
    unfold put
    split
    · rename_i hk
      refine List.pairwise_cons.mpr ⟨fun e he => ?_, hs⟩
      rcases List.mem_cons.mp he with h | h
      · exact h ▸ hk
      · exact before_trans hk (hhead e h)
    · rename_i hb
      split
      · rename_i hk
        subst hk
        exact List.pairwise_cons.mpr ⟨hhead, htail⟩
      · rename_i hk
        refine List.pairwise_cons.mpr ⟨fun e he => ?_, ih htail⟩
        rcases mem_put he with h | h
        · rw [h]
          rcases before_or_eq_or_after k k0 with h1 | h1 | h1
          · exact absurd h1 hb
          · exact absurd h1 hk
          · exact h1
        · exact hhead e h

theorem lookup_filter {k : κ} {entries : List (κ × ν)} (hs : Sorted entries)
    (keep : κ × ν → Bool) :
    lookup k (entries.filter keep) = (lookup k entries).filter fun v => keep (k, v) := by
  cases hl : lookup k entries with
  | none =>
    apply lookup_eq_none
    intro e he hk
    have hm := (List.mem_filter.mp he).1
    have := lookup_of_mem hs (k := k) (v := e.2) (by rw [← hk]; exact hm)
    rw [hl] at this
    cases this
  | some v =>
    have hm := mem_of_lookup hl
    cases hkeep : keep (k, v) with
    | true =>
      rw [Option.filter_some, if_pos hkeep]
      exact lookup_of_mem (hs.filter keep) (List.mem_filter.mpr ⟨hm, hkeep⟩)
    | false =>
      rw [Option.filter_some, if_neg (by simp [hkeep])]
      apply lookup_eq_none
      intro e he hk
      obtain ⟨h1, h2⟩ := List.mem_filter.mp he
      have h3 := lookup_of_mem hs (k := k) (v := e.2) (by rw [← hk]; exact h1)
      rw [hl] at h3
      cases h3
      rw [← hk] at hkeep
      rw [h2] at hkeep
      cases hkeep

theorem eq_of_lookup_eq {xs ys : List (κ × ν)} (hx : Sorted xs) (hy : Sorted ys)
    (h : ∀ k, lookup k xs = lookup k ys) : xs = ys := by
  induction xs generalizing ys with
  | nil =>
    cases ys with
    | nil => rfl
    | cons y ys =>
      obtain ⟨k, v⟩ := y
      have := h k
      rw [lookup_nil, lookup_cons, if_pos rfl] at this
      cases this
  | cons x xs ih =>
    obtain ⟨k, v⟩ := x
    cases ys with
    | nil =>
      have := h k
      rw [lookup_nil, lookup_cons, if_pos rfl] at this
      cases this
    | cons y ys =>
      obtain ⟨k', v'⟩ := y
      obtain ⟨hxh, hxt⟩ := List.pairwise_cons.mp hx
      obtain ⟨hyh, hyt⟩ := List.pairwise_cons.mp hy
      have hkk : k = k' := by
        have h1 : (k, v) ∈ (k', v') :: ys := mem_of_lookup (by rw [← h k, lookup_cons, if_pos rfl])
        have h2 : (k', v') ∈ (k, v) :: xs := mem_of_lookup (by rw [h k', lookup_cons, if_pos rfl])
        rcases List.mem_cons.mp h1 with e1 | m1
        · cases e1
          rfl
        · rcases List.mem_cons.mp h2 with e2 | m2
          · cases e2
            rfl
          · exact absurd (before_trans (hyh _ m1) (hxh _ m2)) (before_irrefl k')
      subst hkk
      have hv : v = v' := by
        have := h k
        rw [lookup_cons, lookup_cons, if_pos rfl, if_pos rfl] at this
        exact Option.some.inj this
      subst hv
      rw [ih hxt hyt]
      intro j
      by_cases hj : j = k
      · subst hj
        rw [lookup_eq_none fun e he => (ne_of_before (hxh e he)).symm,
          lookup_eq_none fun e he => (ne_of_before (hyh e he)).symm]
      · have := h j
        rw [lookup_cons, lookup_cons, if_neg hj, if_neg hj] at this
        exact this

end Entries

/-! ## Tables -/

/-- at most one value per key, listed in the order of the keys -/
structure Table (κ ν : Type) [ByteKey κ] where
  entries : List (κ × ν)
  sorted : Entries.Sorted entries

namespace Table

variable {κ ν : Type} [ByteKey κ] [DecidableEq κ]

def empty : Table κ ν :=
  ⟨[], List.Pairwise.nil⟩

instance : Inhabited (Table κ ν) := ⟨empty⟩

def get? (t : Table κ ν) (k : κ) : Option ν :=
  Entries.lookup k t.entries

def contains (t : Table κ ν) (k : κ) : Bool :=
  (t.get? k).isSome

def insert (t : Table κ ν) (k : κ) (v : ν) : Table κ ν :=
  ⟨Entries.put k v t.entries, Entries.sorted_put t.sorted⟩

def retain (t : Table κ ν) (keep : κ → ν → Bool) : Table κ ν :=
  ⟨t.entries.filter fun e => keep e.1 e.2, t.sorted.filter _⟩

def erase (t : Table κ ν) (k : κ) : Table κ ν :=
  t.retain fun k' _ => k' ≠ k

def keys (t : Table κ ν) : List κ :=
  t.entries.map (·.1)

def values (t : Table κ ν) : List ν :=
  t.entries.map (·.2)

def size (t : Table κ ν) : Nat :=
  t.entries.length

/-- the table of a list of entries, later entries of the same key replacing earlier ones -/
def ofList (entries : List (κ × ν)) : Table κ ν :=
  entries.foldl (fun t e => t.insert e.1 e.2) empty

@[simp] theorem get?_empty (k : κ) : (empty : Table κ ν).get? k = none := rfl

theorem get?_insert (t : Table κ ν) (k k' : κ) (v : ν) :
    (t.insert k v).get? k' = if k' = k then some v else t.get? k' :=
  Entries.lookup_put k k' v t.entries

theorem get?_insert_self (t : Table κ ν) (k : κ) (v : ν) : (t.insert k v).get? k = some v := by
  rw [get?_insert, if_pos rfl]

theorem get?_insert_of_ne (t : Table κ ν) {k k' : κ} (v : ν) (h : k' ≠ k) :
    (t.insert k v).get? k' = t.get? k' := by
  rw [get?_insert, if_neg h]

theorem get?_retain (t : Table κ ν) (keep : κ → ν → Bool) (k : κ) :
    (t.retain keep).get? k = (t.get? k).filter (keep k) :=
  Entries.lookup_filter t.sorted _

theorem get?_erase (t : Table κ ν) (k k' : κ) :
    (t.erase k).get? k' = if k' = k then none else t.get? k' := by
  rw [erase, get?_retain]
  by_cases h : k' = k
  · cases t.get? k' <;> simp [h]
  · cases t.get? k' <;> simp [h]

theorem get?_erase_self (t : Table κ ν) (k : κ) : (t.erase k).get? k = none := by
  rw [get?_erase, if_pos rfl]

theorem get?_erase_of_ne (t : Table κ ν) {k k' : κ} (h : k' ≠ k) :
    (t.erase k).get? k' = t.get? k' := by
  rw [get?_erase, if_neg h]

theorem get?_eq_some_iff (t : Table κ ν) (k : κ) (v : ν) :
    t.get? k = some v ↔ (k, v) ∈ t.entries :=
  ⟨Entries.mem_of_lookup, Entries.lookup_of_mem t.sorted⟩

theorem ext_get? {s t : Table κ ν} (h : ∀ k, s.get? k = t.get? k) : s = t := by
  obtain ⟨xs, hx⟩ := s
  obtain ⟨ys, hy⟩ := t
  have := Entries.eq_of_lookup_eq hx hy h
  subst this
  rfl

theorem keys_sorted (t : Table κ ν) : t.keys.Pairwise before :=
  List.pairwise_map.mpr t.sorted

instance [DecidableEq ν] : DecidableEq (Table κ ν) := fun s t =>
  if h : s.entries = t.entries then
    isTrue (by cases s; cases t; cases h; rfl)
  else isFalse fun e => h (congrArg entries e)

end Table
end PayChannel
