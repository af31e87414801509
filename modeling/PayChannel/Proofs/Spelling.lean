import Mathlib
import PayChannel.Json.Kind
import PayChannel.Proofs.Json.Objects
import PayChannel.Proofs.Text

/-!
# Spellings of hexadecimal text

A spelling is any number of marks `0x` and then digits, of which the letters may be small or
capital.  The readers of accounts and of byte strings take exactly the spellings with the right
count of digits, and answer with the bytes that the digits spell.  So a mark takes no digit of the
value away, and two spellings mean the same if their digits differ only in case.

* `decodePairs_spelled`, `spelling_of_decodePairs`    digits are read as what they spell, and
  nothing but digits is read;
* `dropMarks_marked`, `exists_marks`    marks come off, and only marks do;
* `encode_of_decodePairs`    what was read is written with small letters;
* `spellings_read`    both readers, on every text.
-/

set_option linter.unusedSectionVars false

namespace PayChannel

namespace Hex

/-! ## Digits as characters -/

def numerals : List (Char × Nat) :=
  [('0', 0), ('1', 1), ('2', 2), ('3', 3), ('4', 4), ('5', 5), ('6', 6), ('7', 7), ('8', 8),
    ('9', 9), ('a', 10), ('b', 11), ('c', 12), ('d', 13), ('e', 14), ('f', 15), ('A', 10),
    ('B', 11), ('C', 12), ('D', 13), ('E', 14), ('F', 15)]

def IsNumeral (c : Char) : Prop :=
  c ∈ numerals.map Prod.fst

def numeralValue (c : Char) : Nat :=
  (numerals.lookup c).getD 0

/-- the bytes that digits spell, two digits for each byte and the high one first -/
def spelled : List Char → Bytes
  | high :: low :: rest =>
    UInt8.ofNat (16 * numeralValue high + numeralValue low) :: spelled rest
  | _ => []

structure Spelling where
  marks : Nat
  digits : List Char
  isNumeral : ∀ c ∈ digits, IsNumeral c

/-- any number of marks -/
def marked : Nat → List Char
  | 0 => []
  | count + 1 => '0' :: 'x' :: marked count

namespace Spelling

def text (s : Spelling) : String :=
  String.ofList (marked s.marks ++ s.digits)

def bytes (s : Spelling) : Bytes :=
  spelled s.digits

end Spelling

/-! ## Digits as bytes -/

def byteOf (c : Char) : UInt8 :=
  UInt8.ofNat c.toNat

def charOf (b : UInt8) : Char :=
  Char.ofNat b.toNat

structure NumeralByte (c : Char) : Prop where
  encoded : String.utf8EncodeChar c = [byteOf c]
  value : digit? (byteOf c) = some (UInt8.ofNat (numeralValue c))
  small : numeralValue c < 16
  lower : byteOf c.toLower = Ascii.toLower (byteOf c)

instance (c : Char) : Decidable (NumeralByte c) :=
  decidable_of_iff (String.utf8EncodeChar c = [byteOf c] ∧
      digit? (byteOf c) = some (UInt8.ofNat (numeralValue c)) ∧ numeralValue c < 16 ∧
      byteOf c.toLower = Ascii.toLower (byteOf c))
    ⟨fun h => ⟨h.1, h.2.1, h.2.2.1, h.2.2.2⟩,
      fun h => ⟨h.encoded, h.value, h.small, h.lower⟩⟩

theorem numeralByte {c : Char} (h : IsNumeral c) : NumeralByte c := by
  have hall : (numerals.map Prod.fst).all (fun c => decide (NumeralByte c)) = true := by
    decide +kernel
  exact of_decide_eq_true (List.all_eq_true.mp hall c h)

theorem isNumeral_of_digit? (b : UInt8) (h : (digit? b).isSome) : IsNumeral (charOf b) :=
  of_small (P := fun b => (digit? b).isSome → charOf b ∈ numerals.map Prod.fst)
    (by decide +kernel) b h

theorem byteOf_charOf (b : UInt8) : byteOf (charOf b) = b :=
  of_small (P := fun b => byteOf (charOf b) = b) (by decide +kernel) b

theorem map_byteOf_charOf (bytes : Bytes) : bytes.map (byteOf ∘ charOf) = bytes :=
  (List.map_congr_left fun b _ => byteOf_charOf b).trans (List.map_id bytes)

theorem lt_of_digit? (b v : UInt8) (h : digit? b = some v) : v < 16 := by
  have hall : ∀ b : UInt8, (digit? b).all (· < 16) = true := of_small (by decide +kernel)
  have hb := hall b
  rw [h] at hb
  exact of_decide_eq_true hb

theorem lower_of_digit? (b v : UInt8) (h : digit? b = some v) : digit v = Ascii.toLower b := by
  have hall : ∀ b : UInt8, (digit? b).map digit = none ∨
      (digit? b).map digit = some (Ascii.toLower b) :=
    of_small (by decide +kernel)
  have hb := hall b
  rw [h] at hb
  rcases hb with hb | hb
  · cases hb
  · exact Option.some.inj hb

theorem ofString_ofList_numerals {digits : List Char} (h : ∀ c ∈ digits, IsNumeral c) :
    Bytes.ofString (String.ofList digits) = digits.map byteOf := by
  rw [Bytes.ofString_ofList]
  induction digits with
  | nil => rfl
  | cons c rest ih =>
    rw [List.flatMap_cons, (numeralByte (h c List.mem_cons_self)).encoded,
      ih fun d hd => h d (List.mem_cons_of_mem c hd)]
    rfl

theorem ofString_text (s : Spelling) :
    Bytes.ofString s.text = (marked s.marks).map byteOf ++ s.digits.map byteOf := by
  have hmarked : ∀ count, (marked count).flatMap String.utf8EncodeChar
      = (marked count).map byteOf := by
    intro count
    induction count with
    | zero => rfl
    | succ count ih =>
      rw [marked, List.flatMap_cons, List.flatMap_cons, ih]
      rfl
  rw [Spelling.text, Bytes.ofString_ofList, List.flatMap_append, hmarked,
    ← ofString_ofList_numerals s.isNumeral, Bytes.ofString_ofList]

/-! ## Digits are read as what they spell -/

theorem join_eq {high low : Nat} (hhigh : high < 16) (hlow : low < 16) :
    UInt8.ofNat high <<< 4 ||| UInt8.ofNat low = UInt8.ofNat (16 * high + low) :=
  (by decide +kernel : ∀ high < 16, ∀ low < 16,
    UInt8.ofNat high <<< 4 ||| UInt8.ofNat low = UInt8.ofNat (16 * high + low)) high hhigh low hlow

theorem halves_join {high low : UInt8} (hhigh : high < 16) (hlow : low < 16) :
    (high <<< 4 ||| low) >>> 4 = high ∧ (high <<< 4 ||| low) &&& 15 = low := by
  have hall : ∀ high < 16, ∀ low < 16,
      (UInt8.ofNat high <<< 4 ||| UInt8.ofNat low) >>> 4 = UInt8.ofNat high ∧
      (UInt8.ofNat high <<< 4 ||| UInt8.ofNat low) &&& 15 = UInt8.ofNat low := by decide +kernel
  have hjoin := hall high.toNat hhigh low.toNat hlow
  rwa [UInt8.ofNat_toNat, UInt8.ofNat_toNat] at hjoin

theorem decodePairs_spelled (position : Nat) {digits : List Char}
    (h : ∀ c ∈ digits, IsNumeral c) (heven : digits.length % 2 = 0) :
    decodePairs position (digits.map byteOf) = .ok (spelled digits) := by
  fun_induction spelled digits generalizing position with
  | case1 high low rest ih =>
    have hhigh := numeralByte (h high List.mem_cons_self)
    have hlow := numeralByte (h low (List.mem_cons_of_mem _ List.mem_cons_self))
    have hrest := ih (position + 2)
      (fun c hc => h c (List.mem_cons_of_mem _ (List.mem_cons_of_mem _ hc)))
      (by simp only [List.length_cons] at heven; omega)
    simp only [List.map_cons, decodePairs, hhigh.value, hlow.value, hrest,
      join_eq hhigh.small hlow.small]
  | case2 digits hshort =>
    cases digits with
    | nil => rfl
    | cons high tail =>
      cases tail with
      | nil => simp at heven
      | cons low rest => exact absurd rfl (hshort high low rest)

theorem isSome_of_decodePairs {position : Nat} {ds bytes : Bytes}
    (h : decodePairs position ds = .ok bytes) : ∀ b ∈ ds, (digit? b).isSome := by
  fun_induction decodePairs position ds generalizing bytes with
  | case1 => exact List.forall_mem_nil _
  | case6 position a b rest high ha low hb tail ht ih =>
    intro c hc
    rcases List.mem_cons.mp hc with rfl | hc
    · rw [ha]
      rfl
    · rcases List.mem_cons.mp hc with rfl | hc
      · rw [hb]
        rfl
      · exact ih ht c hc
  | _ => cases h

theorem spelling_of_decodePairs {position : Nat} {ds bytes : Bytes}
    (h : decodePairs position ds = .ok bytes) :
    ∃ digits : List Char, (∀ c ∈ digits, IsNumeral c) ∧ ds = digits.map byteOf ∧
      digits.length = 2 * bytes.length := by
  have hsome := isSome_of_decodePairs h
  refine ⟨ds.map charOf, ?_, ?_, ?_⟩
  · intro c hc
    obtain ⟨b, hb, rfl⟩ := List.mem_map.mp hc
    exact isNumeral_of_digit? b (hsome b hb)
  · rw [List.map_map]
    exact (map_byteOf_charOf ds).symm
  · rw [List.length_map]
    exact length_of_decodePairs position ds bytes h

theorem encode_of_decodePairs {position : Nat} {ds bytes : Bytes}
    (h : decodePairs position ds = .ok bytes) : encode bytes = ds.map Ascii.toLower := by
  fun_induction decodePairs position ds generalizing bytes with
  | case1 => cases h; rfl
  | case6 position a b rest high ha low hb tail ht ih =>
    cases h
    have hhalves := halves_join (lt_of_digit? a high ha) (lt_of_digit? b low hb)
    rw [encode_cons, hhalves.1, hhalves.2, lower_of_digit? a high ha, lower_of_digit? b low hb,
      ih ht]
    rfl
  | _ => cases h

theorem digit?_toLower (b : UInt8) : digit? (Ascii.toLower b) = digit? b :=
  of_small (P := fun b => digit? (Ascii.toLower b) = digit? b) (by decide +kernel) b

theorem decodePairs_of_toLower {position : Nat} {ds bytes : Bytes}
    (h : decodePairs position (ds.map Ascii.toLower) = .ok bytes) :
    decodePairs position ds = .ok bytes := by
  fun_induction decodePairs position ds generalizing bytes with
  | case1 => exact h
  | case2 => cases h
  | case3 position a b rest ha =>
    simp only [List.map_cons, decodePairs, digit?_toLower, ha] at h
    cases h
  | case4 position a b rest high ha hb =>
    simp only [List.map_cons, decodePairs, digit?_toLower, ha, hb] at h
    cases h
  | case5 position a b rest high ha low hb e he ih =>
    simp only [List.map_cons, decodePairs, digit?_toLower, ha, hb] at h
    split at h
    · cases h
    · rename_i tail htail
      rw [ih htail] at he
      cases he
  | case6 position a b rest high ha low hb tail ht ih =>
    simp only [List.map_cons, decodePairs, digit?_toLower, ha, hb] at h
    split at h
    · cases h
    · rename_i found hfound
      rw [ih hfound] at ht
      cases ht
      exact h

/-- bytes are read from their digits, in small letters or capital ones -/
theorem decodePairs_eq_ok_iff (position : Nat) (ds bytes : Bytes) :
    decodePairs position ds = .ok bytes ↔ ds.map Ascii.toLower = encode bytes := by
  constructor
  · exact fun h => (encode_of_decodePairs h).symm
  · intro h
    apply decodePairs_of_toLower
    rw [h, decodePairs_encode]

theorem decode_eq_ok_iff (ds bytes : Bytes) :
    decode ds = .ok bytes ↔ decodePairs 0 ds = .ok bytes := by
  unfold decode
  split
  · rename_i hodd
    constructor
    · intro h
      cases h
    · intro h
      have hlength := length_of_decodePairs 0 ds bytes h
      omega
  · exact Iff.rfl

theorem decodeSized_eq_ok_iff (size : Nat) (ds bytes : Bytes) :
    decodeSized size ds = .ok bytes ↔ decodePairs 0 ds = .ok bytes ∧ bytes.length = size := by
  have hlength := length_of_decodePairs 0 ds bytes
  unfold decodeSized
  split
  · rename_i hodd
    constructor
    · intro h
      cases h
    · intro h
      have := hlength h.1
      omega
  · split
    · rename_i hsize
      constructor
      · intro h
        cases h
      · intro h
        have := hlength h.1
        omega
    · rename_i hsize
      refine ⟨fun h => ⟨h, ?_⟩, fun h => h.1⟩
      have := hlength h
      omega

/-! ## Marks come off -/

theorem dropMarks_marked (count : Nat) {digits : List Char} (h : ∀ c ∈ digits, IsNumeral c) :
    dropMarks ((marked count).map byteOf ++ digits.map byteOf) = digits.map byteOf := by
  induction count with
  | zero =>
    cases digits with
    | nil => rfl
    | cons first tail =>
      cases tail with
      | nil => rfl
      | cons second rest =>
        have hsecond : byteOf second ≠ 120 := by
          intro he
          have hvalue := (numeralByte (h second (List.mem_cons_of_mem _ List.mem_cons_self))).value
          rw [he] at hvalue
          cases hvalue
        rw [marked, List.map_nil, List.nil_append, List.map_cons, List.map_cons, dropMarks,
          if_neg fun he => hsecond he.2]
  | succ count ih => exact ih

theorem exists_marks (text : Bytes) :
    ∃ count, text = (marked count).map byteOf ++ dropMarks text := by
  induction text using List.twoStepInduction with
  | nil => exact ⟨0, rfl⟩
  | singleton => exact ⟨0, rfl⟩
  | cons_cons a b rest ih =>
    by_cases hmark : a = 48 ∧ b = 120
    · obtain ⟨count, hcount⟩ := ih
      obtain ⟨rfl, rfl⟩ := hmark
      refine ⟨count + 1, ?_⟩
      rw [marked, List.map_cons, List.map_cons, List.cons_append, List.cons_append, dropMarks,
        if_pos ⟨rfl, rfl⟩, ← hcount]
      rfl
    · refine ⟨0, ?_⟩
      rw [dropMarks, if_neg hmark]
      rfl

/-- what is left of a spelling without its marks -/
theorem dropMarks_text (s : Spelling) :
    dropMarks (Bytes.ofString s.text) = Bytes.ofString (String.ofList s.digits) := by
  rw [ofString_text, ofString_ofList_numerals s.isNumeral, dropMarks_marked _ s.isNumeral]

/-! ## Texts -/

theorem decodePairs_text (s : Spelling) (h : s.digits.length % 2 = 0) :
    decodePairs 0 (dropMarks (Bytes.ofString s.text)) = .ok s.bytes := by
  rw [dropMarks_text, ofString_ofList_numerals s.isNumeral]
  exact decodePairs_spelled 0 s.isNumeral h

theorem exists_spelling {text : String} {bytes : Bytes}
    (h : decodePairs 0 (dropMarks (Bytes.ofString text)) = .ok bytes) :
    ∃ s : Spelling, s.text = text ∧ s.digits.length = 2 * bytes.length ∧ s.bytes = bytes := by
  obtain ⟨count, hcount⟩ := exists_marks (Bytes.ofString text)
  obtain ⟨digits, hdigits, hbytes, hlength⟩ := spelling_of_decodePairs h
  let s : Spelling := ⟨count, digits, hdigits⟩
  have htext : s.text = text := by
    apply Json.ofString_injective
    rw [ofString_text, hcount, hbytes]
  refine ⟨s, htext, hlength, ?_⟩
  have heven : s.digits.length % 2 = 0 := by
    rw [hlength]
    omega
  have hread := decodePairs_text s heven
  rw [htext, h] at hread
  exact (Except.ok.inj hread).symm

end Hex

namespace Account

open Hex

theorem parse_eq_ok_iff (text : String) (a : Account) :
    parse text = .ok a ↔ decodePairs 0 (dropMarks (Bytes.ofString text)) = .ok a.bytes := by
  have hsized := decodeSized_eq_ok_iff 32 (dropMarks (Bytes.ofString text)) a.bytes
  constructor
  · intro h
    unfold parse ofText at h
    split at h
    · rename_i bytes hread
      cases h
      exact (hsized.mp hread).1
    · cases h
  · intro h
    exact ofText_of_decodeSized (hsized.mpr ⟨h, a.length_eq⟩) a.length_eq

/-- a text with 64 digits names the account of the bytes that they spell -/
theorem parse_text (s : Spelling) (h : s.digits.length = 64) :
    ∃ a, parse s.text = .ok a ∧ a.bytes = s.bytes := by
  have hread := decodePairs_text s (by omega)
  have hlength := length_of_decodePairs 0 _ _ hread
  rw [dropMarks_text, ofString_ofList_numerals s.isNumeral, List.length_map, h] at hlength
  have hbytes : s.bytes.length = 32 := by omega
  exact ⟨⟨s.bytes, hbytes⟩, (parse_eq_ok_iff _ _).mpr hread, rfl⟩

theorem exists_parse_iff (text : String) :
    (∃ a, parse text = .ok a) ↔ ∃ s : Spelling, s.text = text ∧ s.digits.length = 64 := by
  constructor
  · rintro ⟨a, ha⟩
    obtain ⟨s, htext, hlength, -⟩ := exists_spelling ((parse_eq_ok_iff text a).mp ha)
    rw [a.length_eq] at hlength
    exact ⟨s, htext, hlength⟩
  · rintro ⟨s, rfl, hlength⟩
    obtain ⟨a, ha, -⟩ := parse_text s hlength
    exact ⟨a, ha⟩

/-- an account in small letters is what every spelling of it comes to -/
theorem parse_eq_ok_iff_lower (text : String) (a : Account) :
    parse text = .ok a
      ↔ (dropMarks (Bytes.ofString text)).map Ascii.toLower = Hex.encode a.bytes := by
  rw [parse_eq_ok_iff, decodePairs_eq_ok_iff]

/-- with a text, all that agree with it up to marks and the case of letters name its account -/
theorem parse_iff_sameLetters {text : String} {a : Account} (h : parse text = .ok a)
    (other : String) :
    parse other = .ok a ↔ Ascii.sameLetters (dropMarks (Bytes.ofString text))
      (dropMarks (Bytes.ofString other)) = true := by
  rw [Ascii.sameLetters, decide_eq_true_iff, (parse_eq_ok_iff_lower text a).mp h,
    parse_eq_ok_iff_lower, eq_comm]

theorem parse_toHex (a : Account) : parse a.toHex = .ok a := by
  rw [parse, toHex, Bytes.ofString_hexText, ofText_encode]

theorem dropMarks_display (a : Account) :
    dropMarks (Bytes.ofString a.display) = Hex.encode a.bytes := by
  have hmark : Bytes.ofString "0x" = [48, 120] := by cbv
  rw [display, Bytes.ofString_append, hmark, toHex, Bytes.ofString_hexText]
  exact dropMarks_encode a.bytes

theorem parse_display (a : Account) : parse a.display = .ok a := by
  rw [parse_eq_ok_iff, dropMarks_display, decodePairs_encode]

theorem toList_toHex (a : Account) : a.toHex.toList = (Hex.encode a.bytes).map charOf := by
  rw [toHex, Hex.text, Ascii.text, String.toList_ofList]
  rfl

/-- neither marks nor capital letters keep an account from being read -/
theorem parse_respelled (a : Account) (s : Spelling)
    (h : s.digits.map Char.toLower = a.toHex.toList) : parse s.text = .ok a := by
  have hlower : s.digits.map (Ascii.toLower ∘ byteOf) = s.digits.map (byteOf ∘ Char.toLower) :=
    List.map_congr_left fun c hc => (numeralByte (s.isNumeral c hc)).lower.symm
  rw [parse_eq_ok_iff_lower]
  calc (dropMarks (Bytes.ofString s.text)).map Ascii.toLower
      = s.digits.map (Ascii.toLower ∘ byteOf) := by
        rw [dropMarks_text, ofString_ofList_numerals s.isNumeral, List.map_map]
    _ = (s.digits.map Char.toLower).map byteOf := by rw [hlower, List.map_map]
    _ = (Hex.encode a.bytes).map (byteOf ∘ charOf) := by rw [h, toList_toHex, List.map_map]
    _ = Hex.encode a.bytes := map_byteOf_charOf _

end Account

/-! ## Byte strings in JSON -/

namespace Json

open Hex

/-- what a byte string is read as, its text standing between quotes in any form -/
theorem readOctets_eq_ok_iff {input rest : Bytes} {text : String}
    (h : readQuoted input = .ok (Bytes.ofString text, rest)) (bytes after : Bytes) :
    Kind.octets.read input = .ok (bytes, after)
      ↔ decodePairs 0 (dropMarks (Bytes.ofString text)) = .ok bytes ∧ after = rest := by
  rw [← decode_eq_ok_iff]
  show readSpelled _ input = _ ↔ _
  simp only [readSpelled, h]
  cases hread : Hex.decode (dropMarks (Bytes.ofString text)) with
  | ok found => simp [eq_comm]
  | error reason =>
    dsimp only
    split <;> simp

end Json

/-! ## Both readers -/

open Hex Json in
/-- accounts and byte strings are read from spellings with the right count of digits and from
nothing else, as what the digits spell; every spelling of an account names it, no mark takes a digit
away, and two texts name one account exactly if they agree up to marks and case -/
theorem spellings_read :
    (∀ text : String, (∃ a, Account.parse text = .ok a) ↔
      ∃ s : Spelling, s.text = text ∧ s.digits.length = 64) ∧
    (∀ s : Spelling, s.digits.length = 64 → ∃ a, Account.parse s.text = .ok a ∧ a.bytes = s.bytes) ∧
    (∀ (input rest : Bytes) (text : String), readQuoted input = .ok (Bytes.ofString text, rest) →
      ((∃ found, Kind.octets.read input = .ok found) ↔
        ∃ s : Spelling, s.text = text ∧ s.digits.length % 2 = 0) ∧
      (∀ s : Spelling, s.text = text → s.digits.length % 2 = 0 →
        Kind.octets.read input = .ok (s.bytes, rest))) ∧
    (∀ a : Account, Account.parse a.toHex = .ok a ∧ Account.parse a.display = .ok a ∧
      ∀ s : Spelling, s.digits.map Char.toLower = a.toHex.toList →
        Account.parse s.text = .ok a) ∧
    (∀ s : Spelling, dropMarks (Bytes.ofString s.text)
      = Bytes.ofString (String.ofList s.digits)) ∧
    (∀ (text other : String) (a : Account), Account.parse text = .ok a →
      (Account.parse other = .ok a ↔ Ascii.sameLetters (dropMarks (Bytes.ofString text))
        (dropMarks (Bytes.ofString other)) = true)) := by
  refine ⟨Account.exists_parse_iff, Account.parse_text, ?_, ?_, dropMarks_text, ?_⟩
  · intro input rest text hquoted
    have hread := readOctets_eq_ok_iff hquoted
    have hspelled : ∀ s : Spelling, s.text = text → s.digits.length % 2 = 0 →
        Kind.octets.read input = .ok (s.bytes, rest) := by
      rintro s rfl heven
      exact (hread s.bytes rest).mpr ⟨decodePairs_text s heven, rfl⟩
    refine ⟨⟨?_, ?_⟩, hspelled⟩
    · rintro ⟨⟨bytes, after⟩, hfound⟩
      obtain ⟨s, htext, hlength, -⟩ := exists_spelling ((hread bytes after).mp hfound).1
      exact ⟨s, htext, by omega⟩
    · rintro ⟨s, htext, heven⟩
      exact ⟨_, hspelled s htext heven⟩
  · exact fun a => ⟨a.parse_toHex, a.parse_display, a.parse_respelled⟩
  · exact fun text other a h => Account.parse_iff_sameLetters h other

open Hex Json in
/-- capital digits after two marks, as an account and as a byte string between quotes -/
theorem spellings_read_capital :
    let s : Spelling := ⟨2, List.replicate 64 'A', fun c hc => by
      rw [List.eq_of_mem_replicate hc, IsNumeral]
      decide⟩
    let quoted : Bytes := Ascii.quote :: Bytes.ofString s.text ++ [Ascii.quote]
    s.digits.length = 64 ∧ s.bytes = List.replicate 32 170 ∧
      (∃ a, Account.parse s.text = .ok a ∧ a.bytes = s.bytes) ∧
      readQuoted quoted = .ok (Bytes.ofString s.text, []) ∧
      Kind.octets.read quoted = .ok (s.bytes, []) := by
  intro s quoted
  have hquoted : readQuoted quoted = .ok (Bytes.ofString s.text, []) := by decide_cbv
  have hlength : s.digits.length = 64 := List.length_replicate
  obtain ⟨-, hparse, hread, -⟩ := spellings_read
  exact ⟨hlength, by decide +kernel, hparse s hlength, hquoted,
    (hread quoted [] s.text hquoted).2 s rfl (by omega)⟩

end PayChannel
