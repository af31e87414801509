import Mathlib
import PayChannel.Net.Endpoint

/-!
# Written endpoints are read back

An address is written in the one form that is made for it, and read in any form.  The reader looks
for an address of version 4 wherever a group may stand, and goes on as long as groups follow, so
what matters of a written address is where its pieces end.

* `Address4.read_write`    version 4;
* `readGroups_writeGroups`    groups with colons between them, up to where no group goes on;
* `longestRun_spec`    the groups that two colons stand for are zero, and they are there;
* `Address6.read_write`    version 6, in all three forms;
* `Endpoint.parse_write`    endpoints.
-/

set_option linter.unusedSectionVars false

namespace PayChannel.Net

open Ascii

/-! ## Where pieces end -/

/-- what is left does not begin with a byte of a kind -/
def EndsAt (isPart : UInt8 → Bool) (rest : Bytes) : Prop :=
  ∀ b tail, rest = b :: tail → isPart b = false

theorem endsAt_nil (isPart : UInt8 → Bool) : EndsAt isPart [] :=
  fun _ _ h => absurd h.symm (List.cons_ne_nil _ _)

theorem endsAt_cons {isPart : UInt8 → Bool} {b : UInt8} (h : isPart b = false) (tail : Bytes) :
    EndsAt isPart (b :: tail) := by
  intro c rest he
  cases he
  exact h

theorem expectByte_self (b : UInt8) (rest : Bytes) : expectByte b (b :: rest) = some rest :=
  if_pos rfl

theorem expectByte_of_ne {b c : UInt8} (h : c ≠ b) (rest : Bytes) :
    expectByte b (c :: rest) = none :=
  if_neg h

def isAddressPart (b : UInt8) : Bool :=
  (Hex.digit? b).isSome || b = dot

theorem isDigit_of_not_part {b : UInt8} (h : isAddressPart b = false) : isDigit b = false :=
  Hex.of_small (P := fun b => isAddressPart b = false → isDigit b = false) (by decide +kernel) b h

theorem endsAt_digit {rest : Bytes} (h : EndsAt isAddressPart rest) : EndsAt isDigit rest :=
  fun b tail he => isDigit_of_not_part (h b tail he)

/-! ## Version 4 -/

theorem readOctet_digits (w : Word 8) {rest : Bytes} (h : EndsAt isDigit rest) :
    readOctet (Decimal.digits w.val ++ rest) = some (w, rest) := by
  have hform : (Decimal.digits w.val).length ≤ 3 ∧
      ¬ ((Decimal.digits w.val).head? = some zero ∧ (Decimal.digits w.val).length ≠ 1) :=
    (by decide +kernel : ∀ n < 256, (Decimal.digits n).length ≤ 3 ∧
      ¬ ((Decimal.digits n).head? = some zero ∧ (Decimal.digits n).length ≠ 1)) w.val w.isLt
  have hspan := Decimal.span_append _ rest (Decimal.isDigit_of_mem_digits w.val) h
  unfold readOctet
  rw [hspan]
  dsimp only
  rw [if_neg, Decimal.value_digits, Word.ofNat?_val]
  · rfl
  · rintro (hnil | hlong | hzero)
    · exact Decimal.digits_ne_nil w.val hnil
    · exact absurd hform.1 (Nat.not_le_of_lt hlong)
    · exact hform.2 hzero

theorem readNextOctet_digits (w : Word 8) {rest : Bytes} (h : EndsAt isDigit rest) :
    readNextOctet (dot :: (Decimal.digits w.val ++ rest)) = some (w, rest) := by
  rw [readNextOctet, expectByte_self]
  exact readOctet_digits w h

theorem Address4.read_write (a : Address4) {rest : Bytes} (h : EndsAt isDigit rest) :
    Address4.read (a.write ++ rest) = some (a, rest) := by
  have hdot : ∀ tail, EndsAt isDigit (dot :: tail) := fun tail => endsAt_cons (by decide) tail
  simp only [Address4.read, Address4.write, List.append_assoc, List.cons_append]
  rw [readOctet_digits a.first (hdot _)]
  simp only [Option.bind_eq_bind, Option.bind_some]
  rw [readNextOctet_digits a.second (hdot _)]
  simp only [Option.bind_some]
  rw [readNextOctet_digits a.third (hdot _)]
  simp only [Option.bind_some]
  rw [readNextOctet_digits a.fourth h]
  rfl

theorem Address4.read_eq_none {input : Bytes} (h : EndsAt (· = dot) (input.dropWhile isDigit)) :
    Address4.read input = none := by
  have hnext : readNextOctet (input.dropWhile isDigit) = none := by
    unfold readNextOctet
    cases hrest : input.dropWhile isDigit with
    | nil => rfl
    | cons b tail =>
      rw [expectByte_of_ne (of_decide_eq_false (h b tail hrest))]
      rfl
  unfold Address4.read
  cases hfirst : readOctet input with
  | none => rfl
  | some found =>
    have hrest : found.2 = input.dropWhile isDigit := by
      unfold readOctet Decimal.span at hfirst
      dsimp only at hfirst
      split at hfirst
      · cases hfirst
      · obtain ⟨w, -, rfl⟩ := Option.map_eq_some_iff.mp hfirst
        rfl
    obtain ⟨first, rest⟩ := found
    obtain rfl : rest = input.dropWhile isDigit := hrest
    simp only [Option.bind_eq_bind, Option.bind_some, hnext, Option.bind_none]

/-! ## One group -/

theorem digit?_digit {n : Nat} (h : n < 16) :
    Hex.digit? (Hex.digit (UInt8.ofNat n)) = some (UInt8.ofNat n) :=
  (by decide +kernel : ∀ n < 16,
    Hex.digit? (Hex.digit (UInt8.ofNat n)) = some (UInt8.ofNat n)) n h

theorem hexValue_dropWhile (ds : Bytes) :
    hexValue (ds.dropWhile fun b => b = zero) = hexValue ds := by
  induction ds with
  | nil => rfl
  | cons b rest ih =>
    rw [List.dropWhile_cons]
    split
    · rename_i hzero
      rw [ih, of_decide_eq_true hzero]
      rfl
    · rfl

theorem hexValue_fourDigits (g : Word 16) : hexValue (fourDigits g) = g.val := by
  have hlt := g.isLt
  have hpow : Nat.pow 2 16 = 65536 := by decide
  have hvalue : ∀ shift, ((Hex.digit? (Hex.digit (UInt8.ofNat (g.val >>> shift % 16)))).getD
      0).toNat = g.val / 2 ^ shift % 16 := by
    intro shift
    rw [digit?_digit (Nat.mod_lt _ (by decide)), Option.getD_some, UInt8.toNat_ofNat',
      Nat.shiftRight_eq_div_pow]
    omega
  simp only [hexValue, fourDigits, List.map_cons, List.map_nil, List.foldl_cons, List.foldl_nil,
    hvalue]
  omega

theorem isSome_of_mem_fourDigits (g : Word 16) : ∀ b ∈ fourDigits g, (Hex.digit? b).isSome := by
  intro b hb
  obtain ⟨shift, -, rfl⟩ := List.mem_map.mp hb
  rw [digit?_digit (Nat.mod_lt _ (by decide))]
  rfl

/-- what a written group is: one digit to four, for the number of the group -/
structure WrittenGroup (g : Word 16) (ds : Bytes) : Prop where
  digits : ∀ b ∈ ds, (Hex.digit? b).isSome = true
  ne_nil : ds ≠ []
  length_le : ds.length ≤ 4
  value : hexValue ds = g.val

theorem writtenGroup (g : Word 16) : WrittenGroup g (writeGroup g) := by
  have hvalue : hexValue ((fourDigits g).dropWhile fun b => b = zero) = g.val := by
    rw [hexValue_dropWhile, hexValue_fourDigits]
  have hsub : (fourDigits g).dropWhile (fun b => b = zero) <:+ fourDigits g :=
    List.dropWhile_suffix _
  unfold writeGroup
  split
  · rename_i hnil
    rw [hnil] at hvalue
    have hzero : ∀ b ∈ [zero], (Hex.digit? b).isSome = true := by
      intro b hb
      rw [List.mem_singleton.mp hb]
      rfl
    exact ⟨hzero, List.cons_ne_nil _ _, by decide, hvalue⟩
  · rename_i hne
    exact ⟨fun b hb => isSome_of_mem_fourDigits g b (hsub.subset hb), hne, hsub.length_le, hvalue⟩

theorem readGroup_writeGroup (g : Word 16) {rest : Bytes} (h : EndsAt isAddressPart rest) :
    readGroup (writeGroup g ++ rest) = some (g, rest) := by
  have hw := writtenGroup g
  have hrest : ∀ b tail, rest = b :: tail → (Hex.digit? b).isSome = false := by
    intro b tail he
    exact (Bool.or_eq_false_iff.mp (h b tail he)).1
  have htake : rest.takeWhile (fun b => (Hex.digit? b).isSome) = [] ∧
      rest.dropWhile (fun b => (Hex.digit? b).isSome) = rest := by
    cases rest with
    | nil => exact ⟨rfl, rfl⟩
    | cons b tail =>
      rw [List.takeWhile_cons, List.dropWhile_cons, hrest b tail rfl]
      exact ⟨rfl, rfl⟩
  unfold readGroup
  dsimp only
  rw [List.takeWhile_append_of_pos hw.digits, List.dropWhile_append_of_pos hw.digits, htake.1,
    htake.2, List.append_nil, if_neg, hw.value, Word.ofNat?_val]
  · rfl
  · rintro (hnil | hlong)
    · exact hw.ne_nil hnil
    · exact absurd hw.length_le (Nat.not_le_of_lt hlong)

theorem read_writeGroup_eq_none (g : Word 16) {rest : Bytes} (h : EndsAt isAddressPart rest) :
    Address4.read (writeGroup g ++ rest) = none := by
  apply Address4.read_eq_none
  have hparts : ∀ ds : Bytes, (∀ b ∈ ds, (Hex.digit? b).isSome = true) →
      EndsAt (· = dot) ((ds ++ rest).dropWhile isDigit) := by
    intro ds hds
    induction ds with
    | nil =>
      cases rest with
      | nil => exact endsAt_nil _
      | cons b tail =>
        have hb := h b tail rfl
        rw [List.nil_append, List.dropWhile_cons, isDigit_of_not_part hb]
        exact endsAt_cons (Bool.or_eq_false_iff.mp hb).2 tail
    | cons b tail ih =>
      rw [List.cons_append, List.dropWhile_cons]
      split
      · exact ih fun c hc => hds c (List.mem_cons_of_mem _ hc)
      · have hne : b ≠ dot := by
          rintro rfl
          exact absurd (hds dot List.mem_cons_self) (by decide)
        exact endsAt_cons (decide_eq_false hne) _
  exact hparts _ (writtenGroup g).digits

/-! ## Groups -/

def laterGroups (gs : List (Word 16)) : Bytes :=
  gs.flatMap fun g => colon :: writeGroup g

theorem laterGroups_cons (g : Word 16) (gs : List (Word 16)) :
    laterGroups (g :: gs) = colon :: (writeGroup g ++ laterGroups gs) := rfl

theorem writeGroups_cons (g : Word 16) (gs : List (Word 16)) :
    writeGroups (g :: gs) = writeGroup g ++ laterGroups gs := by
  induction gs generalizing g with
  | nil => exact (List.append_nil _).symm
  | cons next gs ih =>
    show writeGroup g ++ colon :: writeGroups (next :: gs) = _
    rw [ih, laterGroups_cons]

theorem endsAt_laterGroups (gs : List (Word 16)) {rest : Bytes} (h : EndsAt isAddressPart rest) :
    EndsAt isAddressPart (laterGroups gs ++ rest) := by
  cases gs with
  | nil => exact h
  | cons g gs => exact endsAt_cons (by decide) _

/-- no group goes on here -/
def Halts (isFirst : Bool) (rest : Bytes) : Prop :=
  ∀ next, nextGroup isFirst rest = some next → EndsAt isAddressPart next

theorem readGroup_eq_none {input : Bytes} (h : EndsAt isAddressPart input) :
    readGroup input = none := by
  have htake : input.takeWhile (fun b => (Hex.digit? b).isSome) = [] := by
    cases input with
    | nil => rfl
    | cons b tail =>
      rw [List.takeWhile_cons, (Bool.or_eq_false_iff.mp (h b tail rfl)).1]
      rfl
  unfold readGroup
  dsimp only
  rw [htake]
  exact if_pos (.inl rfl)

theorem read_eq_none_of_endsAt {input : Bytes} (h : EndsAt isAddressPart input) :
    Address4.read input = none := by
  apply Address4.read_eq_none
  cases input with
  | nil => exact endsAt_nil _
  | cons b tail =>
    have hb := h b tail rfl
    rw [List.dropWhile_cons, isDigit_of_not_part hb]
    exact endsAt_cons (Bool.or_eq_false_iff.mp hb).2 tail

theorem readGroups_of_halts {isFirst : Bool} {rest : Bytes} (h : Halts isFirst rest)
    (count : Nat) : readGroups count isFirst rest = ([], false, rest) := by
  cases count with
  | zero => rfl
  | succ count =>
    have hdotted : (if count = 0 then none
        else (nextGroup isFirst rest).bind Address4.read) = none := by
      split
      · rfl
      · cases hnext : nextGroup isFirst rest with
        | none => rfl
        | some next => exact read_eq_none_of_endsAt (h next hnext)
    have hgroup : (nextGroup isFirst rest).bind readGroup = none := by
      cases hnext : nextGroup isFirst rest with
      | none => rfl
      | some next => exact readGroup_eq_none (h next hnext)
    rw [readGroups, hdotted, hgroup]

theorem readGroups_group (g : Word 16) {isFirst : Bool} {input rest : Bytes} (count : Nat)
    (hnext : nextGroup isFirst input = some (writeGroup g ++ rest))
    (hrest : EndsAt isAddressPart rest) :
    readGroups (count + 1) isFirst input
      = (g :: (readGroups count false rest).1, (readGroups count false rest).2) := by
  have hdotted : (if count = 0 then none
      else (nextGroup isFirst input).bind Address4.read) = none := by
    rw [hnext]
    split
    · rfl
    · exact read_writeGroup_eq_none g hrest
  have hgroup : (nextGroup isFirst input).bind readGroup = some (g, rest) := by
    rw [hnext]
    exact readGroup_writeGroup g hrest
  rw [readGroups, hdotted, hgroup]

theorem readGroups_laterGroups (gs : List (Word 16)) {rest : Bytes} {count : Nat}
    (hcount : gs.length ≤ count) (hrest : EndsAt isAddressPart rest) (hhalts : Halts false rest) :
    readGroups count false (laterGroups gs ++ rest) = (gs, false, rest) := by
  induction gs generalizing count with
  | nil => exact readGroups_of_halts hhalts count
  | cons g gs ih =>
    obtain ⟨count, rfl⟩ := Nat.exists_eq_succ_of_ne_zero (Nat.ne_zero_of_lt hcount)
    have hnext : nextGroup false (laterGroups (g :: gs) ++ rest)
        = some (writeGroup g ++ (laterGroups gs ++ rest)) := by
      rw [laterGroups_cons, List.cons_append, List.append_assoc]
      exact expectByte_self colon _
    rw [readGroups_group g count hnext (endsAt_laterGroups gs hrest),
      ih (Nat.le_of_succ_le_succ hcount)]

/-- groups with colons between them are read, up to where no group goes on -/
theorem readGroups_writeGroups (gs : List (Word 16)) {rest : Bytes} {count : Nat}
    (hcount : gs.length ≤ count) (hfirst : EndsAt isAddressPart rest) (hhalts : Halts false rest) :
    readGroups count true (writeGroups gs ++ rest) = (gs, false, rest) := by
  cases gs with
  | nil =>
    have htrue : Halts true rest := by
      intro next hnext
      cases hnext
      exact hfirst
    exact readGroups_of_halts htrue count
  | cons g gs =>
    obtain ⟨count, rfl⟩ := Nat.exists_eq_succ_of_ne_zero (Nat.ne_zero_of_lt hcount)
    have hnext : nextGroup true (writeGroups (g :: gs) ++ rest)
        = some (writeGroup g ++ (laterGroups gs ++ rest)) := by
      rw [writeGroups_cons, List.append_assoc]
      rfl
    rw [readGroups_group g count hnext (endsAt_laterGroups gs hfirst),
      readGroups_laterGroups gs (Nat.le_of_succ_le_succ hcount) hfirst hhalts]

theorem readGroups_dotted (g : Word 16) (a : Address4) {rest : Bytes} (h : EndsAt isDigit rest)
    (count : Nat) :
    readGroups (count + 3) true (writeGroups [g] ++ colon :: (a.write ++ rest))
      = (g :: a.groups, true, rest) := by
  have hnext : nextGroup true (writeGroups [g] ++ colon :: (a.write ++ rest))
      = some (writeGroup g ++ colon :: (a.write ++ rest)) := rfl
  have hcolon : EndsAt isAddressPart (colon :: (a.write ++ rest)) := endsAt_cons (by decide) _
  have hdotted : (if count + 1 = 0 then none
      else (nextGroup false (colon :: (a.write ++ rest))).bind Address4.read) = some (a, rest) := by
    rw [if_neg (Nat.succ_ne_zero count)]
    show (expectByte colon (colon :: (a.write ++ rest))).bind Address4.read = _
    rw [expectByte_self]
    exact Address4.read_write a h
  rw [readGroups_group g (count + 2) hnext hcolon, readGroups, hdotted]

namespace Address6

/-! ## Runs of zeros -/

theorem take_leadingZeros (gs : List (Word 16)) :
    gs.take (leadingZeros gs) = List.replicate (leadingZeros gs) Word.zero ∧
      leadingZeros gs ≤ gs.length := by
  have hprefix : gs.takeWhile (fun g => g.val = 0) <+: gs := List.takeWhile_prefix _
  refine ⟨?_, hprefix.length_le⟩
  unfold leadingZeros
  rw [← List.prefix_iff_eq_take.mp hprefix, List.eq_replicate_iff]
  refine ⟨rfl, fun g hg => Word.ext ?_⟩
  have hzero := List.mem_takeWhile_imp hg
  exact of_decide_eq_true hzero

/-- the longest run of zeros is within the groups, and zeros are what it holds -/
theorem longestRun_spec (gs : List (Word 16)) :
    (longestRun gs).1 + (longestRun gs).2 ≤ gs.length ∧
      gs = gs.take (longestRun gs).1 ++ List.replicate (longestRun gs).2 Word.zero ++
        gs.drop ((longestRun gs).1 + (longestRun gs).2) := by
  induction gs with
  | nil => exact ⟨Nat.le_refl 0, rfl⟩
  | cons g gs ih =>
    obtain ⟨hlength, hsplit⟩ := ih
    rw [longestRun]
    dsimp only
    split
    · obtain ⟨htake, hle⟩ := take_leadingZeros (g :: gs)
      refine ⟨?_, ?_⟩
      · rw [Nat.zero_add]
        exact hle
      · rw [List.take_zero, List.nil_append, Nat.zero_add, ← htake, List.take_append_drop]
    · refine ⟨?_, ?_⟩
      · rw [List.length_cons]
        dsimp only
        omega
      · dsimp only
        rw [Nat.add_right_comm, List.take_succ_cons, List.drop_succ_cons, List.cons_append,
          List.cons_append, ← hsplit]

/-! ## Version 6 -/

theorem ofGroups?_groups (a : Address6) : ofGroups? a.groups = some a :=
  dif_pos a.length_eq

theorem read_full (a : Address6) {rest : Bytes} (hrest : EndsAt isAddressPart rest)
    (hhalts : Halts false rest) : read (writeGroups a.groups ++ rest) = some (a, rest) := by
  unfold read
  rw [readGroups_writeGroups a.groups (Nat.le_of_eq a.length_eq) hrest hhalts]
  dsimp only
  rw [if_pos a.length_eq, ofGroups?_groups]
  rfl

/-- what two colons stand for is filled with zeros, up to eight groups -/
theorem read_short (a : Address6) {head tail : List (Word 16)} {zeros : Nat} {input rest : Bytes}
    {dotted : Bool} (hsplit : a.groups = head ++ List.replicate zeros Word.zero ++ tail)
    (hhead : head.length + 2 ≤ 8)
    (htail : readGroups (7 - head.length) true input = (tail, dotted, rest)) :
    read (writeGroups head ++ colon :: colon :: input) = some (a, rest) := by
  have hlength := congrArg List.length hsplit
  rw [a.length_eq, List.length_append, List.length_append, List.length_replicate] at hlength
  have hends : EndsAt isAddressPart (colon :: colon :: input) := endsAt_cons (by decide) _
  have hhalts : Halts false (colon :: colon :: input) := by
    intro next hnext
    cases (expectByte_self colon (colon :: input)).symm.trans hnext
    exact endsAt_cons (by decide) _
  have hzeros : 8 - head.length - tail.length = zeros := by omega
  unfold read
  rw [readGroups_writeGroups head (by omega) hends hhalts]
  dsimp only
  rw [if_neg (by omega), if_neg Bool.false_ne_true, expectByte_self, Option.bind_some,
    expectByte_self]
  dsimp only
  rw [htail]
  dsimp only
  rw [hzeros, ← hsplit, ofGroups?_groups]
  rfl

theorem groups_of_mapped? {a : Address6} {v4 : Address4} (h : a.mapped? = some v4) :
    a.groups = [] ++ List.replicate 5 Word.zero ++ Word.max 16 :: v4.groups := by
  unfold mapped? at h
  split at h
  · rename_i x y high low hvals hlast
    cases h
    have hlow := low.isLt
    have hhigh := high.isLt
    have hpow : Nat.pow 2 16 = 65536 := by decide
    have hbyte : Nat.pow 2 8 = 256 := by decide
    have hgroups : (Address4.ofGroups high low).groups = [high, low] := by
      simp only [Address4.groups, Address4.ofGroups, List.cons.injEq, and_true]
      constructor <;>
      · apply Word.ext
        simp only [Word.val_truncate, hpow, hbyte]
        omega
    have hxy : [x, y] = [high.val, low.val] := by
      have hdrop := congrArg (List.drop 6) hvals
      rw [← List.map_drop, hlast] at hdrop
      exact hdrop.symm
    cases hxy
    have hinjective : Function.Injective (@Word.val 16) := fun _ _ he => Word.ext he
    apply hinjective.list_map
    rw [hvals, hgroups]
    rfl
  · cases h

theorem read_write (a : Address6) {rest : Bytes} (hrest : EndsAt isAddressPart rest)
    (hhalts : Halts false rest) : read (a.write ++ rest) = some (a, rest) := by
  unfold write
  split
  · rename_i v4 hmapped
    have htail := readGroups_dotted (Word.max 16) v4 (endsAt_digit hrest) 4
    have hshort := read_short a (groups_of_mapped? hmapped) (by decide) htail
    rw [← hshort]
    simp only [List.cons_append, List.append_assoc, writeGroups, List.nil_append]
  · obtain ⟨hlength, hsplit⟩ := longestRun_spec a.groups
    dsimp only
    split
    · rename_i hrun
      have htake : (a.groups.take (longestRun a.groups).1).length = (longestRun a.groups).1 := by
        rw [List.length_take]
        omega
      have hdrop := List.length_drop (i := (longestRun a.groups).1 + (longestRun a.groups).2)
        (l := a.groups)
      rw [a.length_eq] at hlength hdrop
      have hcount : (a.groups.drop ((longestRun a.groups).1 + (longestRun a.groups).2)).length
          ≤ 7 - (a.groups.take (longestRun a.groups).1).length := by omega
      have htail := readGroups_writeGroups _ hcount hrest hhalts
      have hshort := read_short a hsplit (by omega) htail
      rw [← hshort]
      simp only [List.cons_append, List.append_assoc]
    · exact read_full a hrest hhalts

end Address6

/-! ## Endpoints -/

namespace Endpoint

theorem readWord_digits {bits : Nat} (w : Word bits) {rest : Bytes} (h : EndsAt isDigit rest) :
    readWord bits (Decimal.digits w.val ++ rest) = some (w, rest) := by
  unfold readWord
  rw [Decimal.span_append _ rest (Decimal.isDigit_of_mem_digits w.val) h]
  dsimp only
  rw [if_neg (Decimal.digits_ne_nil w.val), Decimal.value_digits, Word.ofNat?_val]
  rfl

theorem readNumber_digits (number : Word 16) :
    readNumber (colon :: Decimal.digits number.val) = some number := by
  have hread := readWord_digits number (endsAt_nil isDigit)
  rw [List.append_nil] at hread
  unfold readNumber
  rw [expectByte_self, Option.bind_some, hread]

def zoneText (zone : Word 32) : Bytes :=
  if zone.val = 0 then [] else percent :: Decimal.digits zone.val

theorem write_v6 (address : Address6) (zone : Word 32) (number : Word 16) :
    write (.v6 address zone number) = openBracket :: (address.write ++
      (zoneText zone ++ closeBracket :: colon :: Decimal.digits number.val)) := by
  simp only [write, zoneText, List.cons_append, List.append_assoc]

theorem readZone_zoneText (zone : Word 32) (tail : Bytes) :
    readZone (zoneText zone ++ closeBracket :: tail) = some (zone, closeBracket :: tail) := by
  unfold zoneText
  split
  · rename_i hzero
    obtain rfl : zone = Word.zero := Word.ext hzero
    rw [List.nil_append, readZone, expectByte_of_ne (by decide)]
  · rw [List.cons_append, readZone, expectByte_self]
    exact readWord_digits zone (endsAt_cons (by decide) tail)

theorem ends_zoneText (zone : Word 32) (tail : Bytes) :
    EndsAt isAddressPart (zoneText zone ++ closeBracket :: tail) ∧
      Halts false (zoneText zone ++ closeBracket :: tail) := by
  have hfirst : ∀ b rest, isAddressPart b = false → b ≠ colon →
      EndsAt isAddressPart (b :: rest) ∧ Halts false (b :: rest) := by
    intro b rest hpart hcolon
    refine ⟨endsAt_cons hpart rest, fun next hnext => ?_⟩
    cases (expectByte_of_ne hcolon rest).symm.trans hnext
  unfold zoneText
  split
  · exact hfirst closeBracket tail (by decide) (by decide)
  · exact hfirst percent _ (by decide) (by decide)

/-- what has been written as an endpoint is read as that endpoint -/
theorem parse_write (e : Endpoint) : parse e.write = some e := by
  cases e with
  | v4 address number =>
    have hends : EndsAt isDigit (colon :: Decimal.digits number.val) := endsAt_cons (by decide) _
    have hread := Address4.read_write address hends
    simp only [parse, parse4, write, hread, Option.bind_eq_bind, Option.bind_some,
      readNumber_digits]
  | v6 address zone number =>
    have hfour : ∀ tail : Bytes, parse4 (openBracket :: tail) = none := by
      intro tail
      rw [parse4, read_eq_none_of_endsAt (endsAt_cons (by decide) tail)]
      rfl
    have hread := fun tail =>
      Address6.read_write address (ends_zoneText zone tail).1 (ends_zoneText zone tail).2
    simp only [parse, write_v6, hfour, parse6, expectByte_self, hread, readZone_zoneText,
      readNumber_digits, Option.bind_eq_bind, Option.bind_some]

end Endpoint
end PayChannel.Net
