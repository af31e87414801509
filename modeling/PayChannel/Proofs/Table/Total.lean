import Mathlib
import PayChannel.Table

/-!
# Sums over tables

Every value of a table has a weight, and the weights of all values are added up.  Setting the value
of a key changes the sum by the new weight less the old one, and taking a key away changes it by
the old one.

* `Table.weightAt`    the weight of the value of a key, zero if there is none;
* `total_insert`, `total_erase`    what the operations do to the sum;
* `weightAt_le_total`    no single weight is above the sum.
-/

set_option linter.unusedSectionVars false

namespace PayChannel

namespace Entries

variable {κ ν : Type} [ByteKey κ] [DecidableEq κ]

/-- the weights of all entries added up -/
def total (weight : ν → Nat) (entries : List (κ × ν)) : Nat :=
  (entries.map fun e => weight e.2).sum

def weightOf (weight : ν → Nat) : Option ν → Nat
  | none => 0
  | some v => weight v

variable (weight : ν → Nat)

@[simp] theorem weightOf_none : weightOf weight none = 0 := rfl

@[simp] theorem weightOf_some (v : ν) : weightOf weight (some v) = weight v := rfl

@[simp] theorem total_nil : total weight ([] : List (κ × ν)) = 0 := rfl

@[simp] theorem total_cons (k : κ) (v : ν) (rest : List (κ × ν)) :
    total weight ((k, v) :: rest) = weight v + total weight rest := by
  simp [total]

theorem weightOf_lookup_le (k : κ) (entries : List (κ × ν)) :
    weightOf weight (lookup k entries) ≤ total weight entries := by
  induction entries with
  | nil => exact Nat.le_refl 0
  | cons e rest ih =>
    obtain ⟨k', v⟩ := e
    rw [lookup_cons, total_cons]
    split
    · exact Nat.le_add_right _ _
    · exact Nat.le_trans ih (Nat.le_add_left _ _)

theorem total_put (k : κ) (v : ν) {entries : List (κ × ν)} (hs : Sorted entries) :
    total weight (put k v entries) + weightOf weight (lookup k entries)
      = total weight entries + weight v := by
  induction entries with
  | nil => simp [put, lookup]
  | cons e rest ih =>
    obtain ⟨k0, v0⟩ := e
    obtain ⟨hhead, htail⟩ := List.pairwise_cons.mp hs
    unfold put
    split
    · rename_i hb
      have hnone : lookup k ((k0, v0) :: rest) = none := by
        apply lookup_eq_none
        intro e he
        rcases List.mem_cons.mp he with h | h
        · exact h ▸ (ByteKey.ne_of_before hb).symm
        · exact (ByteKey.ne_of_before (ByteKey.before_trans hb (hhead e h))).symm
      rw [hnone, total_cons, weightOf_none]
      omega
    · split
      · rename_i hk
        subst hk
        rw [lookup_cons, if_pos rfl, total_cons, total_cons, weightOf_some]
        omega
      · rename_i hk
        have h := ih htail
        rw [lookup_cons, if_neg hk, total_cons, total_cons]
        omega

theorem total_filter_ne (k : κ) {entries : List (κ × ν)} (hs : Sorted entries) :
    total weight (entries.filter fun e => e.1 ≠ k) + weightOf weight (lookup k entries)
      = total weight entries := by
  induction entries with
  | nil => rfl
  | cons e rest ih =>
    obtain ⟨k0, v0⟩ := e
    obtain ⟨hhead, htail⟩ := List.pairwise_cons.mp hs
    have h := ih htail
    by_cases hk : k0 = k
    · subst hk
      have hrest : lookup k0 rest = none :=
        lookup_eq_none fun e he => (ByteKey.ne_of_before (hhead e he)).symm
      rw [hrest, weightOf_none] at h
      rw [List.filter_cons_of_neg (by simp), lookup_cons, if_pos rfl, weightOf_some, total_cons]
      omega
    · rw [List.filter_cons_of_pos (by simpa using hk), lookup_cons,
        if_neg (fun h' => hk h'.symm), total_cons, total_cons]
      omega

theorem total_le_total {weight' : ν → Nat} (h : ∀ v, weight v ≤ weight' v)
    (entries : List (κ × ν)) : total weight entries ≤ total weight' entries := by
  induction entries with
  | nil => exact Nat.le_refl 0
  | cons e rest ih =>
    obtain ⟨k, v⟩ := e
    rw [total_cons, total_cons]
    exact Nat.add_le_add (h v) ih

end Entries

namespace Table

variable {κ ν : Type} [ByteKey κ] [DecidableEq κ]

def total (t : Table κ ν) (weight : ν → Nat) : Nat :=
  Entries.total weight t.entries

def weightAt (t : Table κ ν) (weight : ν → Nat) (k : κ) : Nat :=
  Entries.weightOf weight (t.get? k)

variable (t : Table κ ν) (weight : ν → Nat)

@[simp] theorem total_empty : (empty : Table κ ν).total weight = 0 := rfl

theorem weightAt_of_get? {t : Table κ ν} {k : κ} {v : ν} (h : t.get? k = some v) :
    t.weightAt weight k = weight v := by
  rw [weightAt, h, Entries.weightOf_some]

theorem weightAt_of_none {t : Table κ ν} {k : κ} (h : t.get? k = none) :
    t.weightAt weight k = 0 := by
  rw [weightAt, h, Entries.weightOf_none]

theorem total_insert (k : κ) (v : ν) :
    (t.insert k v).total weight + t.weightAt weight k = t.total weight + weight v :=
  Entries.total_put weight k v t.sorted

theorem total_erase (k : κ) :
    (t.erase k).total weight + t.weightAt weight k = t.total weight :=
  Entries.total_filter_ne weight k t.sorted

theorem weightAt_le_total (k : κ) : t.weightAt weight k ≤ t.total weight :=
  Entries.weightOf_lookup_le weight k t.entries

theorem total_le_total {weight' : ν → Nat} (h : ∀ v, weight v ≤ weight' v) :
    t.total weight ≤ t.total weight' :=
  Entries.total_le_total weight h t.entries

end Table
end PayChannel
