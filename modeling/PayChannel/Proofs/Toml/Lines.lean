import Mathlib
import PayChannel.Proofs.Text
import PayChannel.Toml.Document
import PayChannel.Toml.Line

/-!
# TOML: what is written line by line

A document is written as lines, each a bare key with a value after it or a header, and read line by
line.  So a line is described by what it adds to the section that is being read, whatever comes
after it, and a document by its lines.

* `Legible`    bytes that need no escapes;
* `readString_quoted`, `readValue_number`    the values that are written;
* `Line`, `line_text`, `line_number`    a line with a key and a value;
* `readSections_header`, `readSections_blank`    the lines that stand between sections.
-/

set_option linter.unusedSectionVars false

namespace PayChannel.Toml

/-! ## Characters -/

def charsOf (bytes : Bytes) : List Char :=
  bytes.map fun b => Char.ofNat b.toNat

theorem toList_text (bytes : Bytes) : (Ascii.text bytes).toList = charsOf bytes :=
  String.toList_ofList

theorem of_mem_charsOf {P : Char → Prop} {Q : UInt8 → Prop}
    (hall : ∀ n, n < 256 → Q (UInt8.ofNat n) → P (Char.ofNat (UInt8.ofNat n).toNat))
    {bytes : Bytes} (h : ∀ b ∈ bytes, Q b) : ∀ c ∈ charsOf bytes, P c := by
  intro c hc
  obtain ⟨b, hb, rfl⟩ := List.mem_map.mp hc
  exact Hex.of_small (P := fun b => Q b → P (Char.ofNat b.toNat)) hall b (h b hb)

def quoteMark : Char :=
  Char.ofNat 34

/-- a character that stands for itself between quotes -/
structure Unquoted (c : Char) : Prop where
  plain : isPlain c = true
  ne_quote : isQuote c = false
  ne_backslash : isBackslash c = false

instance (c : Char) : Decidable (Unquoted c) :=
  decidable_of_iff (isPlain c = true ∧ isQuote c = false ∧ isBackslash c = false)
    ⟨fun h => ⟨h.1, h.2.1, h.2.2⟩, fun h => ⟨h.plain, h.ne_quote, h.ne_backslash⟩⟩

theorem unquoted_of_all {s : String} (h : s.toList.all (fun c => decide (Unquoted c)) = true) :
    ∀ c ∈ s.toList, Unquoted c :=
  fun c hc => of_decide_eq_true (List.all_eq_true.mp h c hc)

/-! ## Texts without escapes -/

/-- bytes below 128 whose characters stand for themselves between quotes -/
def Legible (bytes : Bytes) : Prop :=
  ∀ b ∈ bytes, b < 128 ∧ Unquoted (Char.ofNat b.toNat)

namespace Legible

theorem nil : Legible [] :=
  List.forall_mem_nil _

theorem cons {b : UInt8} {bytes : Bytes} (h : b < 128 ∧ Unquoted (Char.ofNat b.toNat))
    (hbytes : Legible bytes) : Legible (b :: bytes) :=
  List.forall_mem_cons.mpr ⟨h, hbytes⟩

theorem append {x y : Bytes} (hx : Legible x) (hy : Legible y) : Legible (x ++ y) :=
  List.forall_mem_append.mpr ⟨hx, hy⟩

theorem unquoted {bytes : Bytes} (h : Legible bytes) :
    ∀ c ∈ (Ascii.text bytes).toList, Unquoted c := by
  rw [toList_text]
  exact of_mem_charsOf (fun _ _ hb => hb) fun b hb => (h b hb).2

theorem ofString_text {bytes : Bytes} (h : Legible bytes) :
    Bytes.ofString (Ascii.text bytes) = bytes :=
  Bytes.ofString_text bytes fun b hb => (h b hb).1

theorem digits (n : Nat) : Legible (Decimal.digits n) := by
  have hall : ∀ b : UInt8, Ascii.isDigit b = true → b < 128 ∧ Unquoted (Char.ofNat b.toNat) :=
    Hex.of_small (by decide +kernel)
  exact fun b hb => hall b (Decimal.isDigit_of_mem_digits n b hb)

theorem of_isSome_digit? {bytes : Bytes} (h : ∀ b ∈ bytes, (Hex.digit? b).isSome) :
    Legible bytes := by
  have hall : ∀ b : UInt8, (Hex.digit? b).isSome → b < 128 ∧ Unquoted (Char.ofNat b.toNat) :=
    Hex.of_small (by decide +kernel)
  exact fun b hb => hall b (h b hb)

theorem hexEncode (bytes : Bytes) : Legible (Hex.encode bytes) := by
  refine of_isSome_digit? fun b hb => ?_
  obtain ⟨c, -, hc⟩ := List.mem_flatMap.mp hb
  rcases List.mem_pair.mp hc with rfl | rfl
  · rw [Hex.digit?_digit_high]
    rfl
  · rw [Hex.digit?_digit_low]
    rfl

end Legible

/-! ## Characters that a scanner stops at -/

/-- a character with one of a few codes is not one that a test admits if the test admits none of
them -/
theorem ne_of_test {test : Char → Bool} {c d : Char} (h : test c = true) (hd : test d = false) :
    c ≠ d := by
  rintro rfl
  rw [h] at hd
  cases hd

theorem isBlank_eq_false {test : Char → Bool} {c : Char} (h : test c = true)
    (hspace : test ' ' = false) (htab : test '\t' = false) : isBlank c = false := by
  rw [isBlank, decide_eq_false (ne_of_test h hspace), decide_eq_false (ne_of_test h htab)]
  rfl

theorem isQuote_eq_false {test : Char → Bool} {c : Char} (h : test c = true)
    (hquote : test quoteMark = false) : isQuote c = false := by
  rw [isQuote, decide_eq_false_iff_not]
  intro hc
  have he : c = quoteMark := by rw [quoteMark, ← hc, Char.ofNat_toNat]
  exact ne_of_test h hquote he

theorem isTick_eq_false {test : Char → Bool} {c : Char} (h : test c = true)
    (htick : test (Char.ofNat 39) = false) : isTick c = false := by
  rw [isTick, decide_eq_false_iff_not]
  intro hc
  have he : c = Char.ofNat 39 := by rw [← hc, Char.ofNat_toNat]
  exact ne_of_test h htick he

theorem skipBlanks_cons {c : Char} (h : isBlank c = false) (rest : List Char) :
    skipBlanks (c :: rest) = c :: rest := by
  rw [skipBlanks, List.dropWhile_cons, h]
  rfl

theorem skipBlanks_space (rest : List Char) : skipBlanks (' ' :: rest) = skipBlanks rest := by
  rw [skipBlanks, List.dropWhile_cons]
  rfl

theorem lineEnd?_eq_none {c : Char} (hfeed : c ≠ '\n') (hreturn : c ≠ '\r') (rest : List Char) :
    lineEnd? (c :: rest) = none := by
  unfold lineEnd?
  split
  · rename_i he
    exact absurd (List.cons.inj he).1 hfeed
  · rename_i he
    exact absurd (List.cons.inj he).1 hreturn
  · rfl

/-! ## Texts -/

theorem readBasic_plain {cs : List Char} (h : ∀ c ∈ cs, Unquoted c) (rest : List Char)
    {steps : Nat} (hsteps : cs.length < steps) :
    readBasic steps (cs ++ quoteMark :: rest) = some (cs, rest) := by
  induction cs generalizing steps with
  | nil =>
    obtain ⟨steps, rfl⟩ := Nat.exists_eq_succ_of_ne_zero (Nat.ne_of_gt hsteps)
    rw [List.nil_append, readBasic]
    exact if_pos rfl
  | cons c cs ih =>
    obtain ⟨steps, rfl⟩ := Nat.exists_eq_succ_of_ne_zero (Nat.ne_zero_of_lt hsteps)
    have hc := h c List.mem_cons_self
    have hrest := ih (fun d hd => h d (List.mem_cons_of_mem c hd)) (Nat.lt_of_succ_lt_succ hsteps)
    simp only [List.cons_append, readBasic, hc.ne_quote, hc.ne_backslash, hc.plain, hrest,
      Bool.false_eq_true, if_false, if_true, Option.map_some]

/-- a text between quotes; two quotes at its start are the whole of it -/
theorem readString_quoted {cs : List Char} (h : ∀ c ∈ cs, Unquoted c) (rest : List Char) :
    readString (quoteMark :: (cs ++ quoteMark :: '\n' :: rest))
      = some (String.ofList cs, '\n' :: rest) := by
  have hquote : isQuote quoteMark = true ∧ isTick quoteMark = false := by decide
  cases cs with
  | nil => rfl
  | cons c cs =>
    have hc := h c List.mem_cons_self
    have hsteps : (c :: cs).length
        < (quoteMark :: ((c :: cs) ++ quoteMark :: '\n' :: rest)).length := by
      simp only [List.length_cons, List.length_append]
      omega
    have hread := readBasic_plain h ('\n' :: rest) hsteps
    rw [List.cons_append] at hread
    cases htail : cs ++ quoteMark :: '\n' :: rest with
    | nil =>
      exact absurd (congrArg List.length htail) (by simp)
    | cons d tail =>
      rw [htail] at hread
      simp only [readString, List.cons_append, htail, hc.ne_quote, hquote.1, hquote.2, hread,
        Bool.and_false, Bool.false_and, Bool.false_eq_true, if_false, if_true, Option.map_some]

/-! ## Numbers -/

def digitChars (n : Nat) : List Char :=
  charsOf (Decimal.digits n)

structure DigitLine (input : List Char) : Prop where
  first : ∀ c tail, input = c :: tail → isDecimal c = true ∨ c = '\n'

theorem isDecimal_of_mem {n : Nat} : ∀ c ∈ digitChars n, isDecimal c = true :=
  of_mem_charsOf (P := fun c => isDecimal c = true) (Q := fun b => Ascii.isDigit b = true)
    (by decide +kernel) (Decimal.isDigit_of_mem_digits n)

theorem digitLine_append {ds : List Char} (h : ∀ c ∈ ds, isDecimal c = true) (rest : List Char) :
    DigitLine (ds ++ '\n' :: rest) := by
  refine ⟨fun c tail he => ?_⟩
  cases ds with
  | nil =>
    rw [List.nil_append] at he
    exact .inr (List.cons.inj he).1.symm
  | cons d ds =>
    rw [List.cons_append] at he
    rw [← (List.cons.inj he).1]
    exact .inl (h d List.mem_cons_self)

theorem DigitLine.ne {input : List Char} (h : DigitLine input) {d : Char}
    (hd : isDecimal d = false) (hfeed : d ≠ '\n') (tail : List Char) : input ≠ d :: tail := by
  intro he
  rcases h.first d tail he with hdecimal | hline
  · rw [hd] at hdecimal
    cases hdecimal
  · exact hfeed hline

theorem DigitLine.expectChar {input : List Char} (h : DigitLine input) {d : Char}
    (hd : isDecimal d = false) (hfeed : d ≠ '\n') : expectChar d input = none := by
  cases input with
  | nil => rfl
  | cons c tail =>
    refine if_neg ?_
    rintro rfl
    exact h.ne hd hfeed tail rfl

theorem digitLine_of_readField {ds rest : List Char} (h : ∀ c ∈ ds, isDecimal c = true)
    {count low high n : Nat} {after : List Char}
    (hread : readField count low high (ds ++ '\n' :: rest) = some (n, after)) :
    DigitLine after := by
  unfold readField at hread
  dsimp only at hread
  split at hread
  · rename_i hfield
    split at hread
    · cases hread
      have hcount : count ≤ ds.length := by
        by_contra hlong
        have hfeed : '\n' ∈ (ds ++ '\n' :: rest).take count := by
          rw [List.take_append, List.take_of_length_le (by omega)]
          have hpos : 0 < count - ds.length := by omega
          obtain ⟨k, hk⟩ := Nat.exists_eq_succ_of_ne_zero (Nat.ne_of_gt hpos)
          rw [hk, List.take_succ_cons]
          exact List.mem_append_right _ List.mem_cons_self
        exact absurd (List.all_eq_true.mp hfield.2 _ hfeed) (by decide)
      rw [List.drop_append_of_le_length hcount]
      exact digitLine_append (fun c hc => h c (List.mem_of_mem_drop hc)) rest
    · cases hread
  · cases hread

theorem readFieldAfter_eq_none {input : List Char} (h : DigitLine input) {d : Char}
    (hd : isDecimal d = false) (hfeed : d ≠ '\n') (count low high : Nat) :
    readFieldAfter d count low high input = none := by
  rw [readFieldAfter, h.expectChar hd hfeed]
  rfl

theorem skipDate?_digits {ds : List Char} (h : ∀ c ∈ ds, isDecimal c = true) (rest : List Char) :
    skipDate? (ds ++ '\n' :: rest) = none := by
  have hday : skipDay? (ds ++ '\n' :: rest) = none := by
    unfold skipDay?
    split
    · rfl
    · rename_i hread
      rw [readFieldAfter_eq_none (digitLine_of_readField h hread) (by decide) (by decide)]
  have htime : skipTime? (ds ++ '\n' :: rest) = none := by
    unfold skipTime?
    split
    · rfl
    · rename_i hread
      rw [readFieldAfter_eq_none (digitLine_of_readField h hread) (by decide) (by decide)]
  rw [skipDate?, hday, htime]

theorem readMoreDigits_digits {ds : List Char} (h : ∀ c ∈ ds, isDecimal c = true)
    (rest : List Char) :
    readMoreDigits isDecimal (ds ++ '\n' :: rest) = some (ds, '\n' :: rest) := by
  induction ds with
  | nil => rfl
  | cons c ds ih =>
    have hc := h c List.mem_cons_self
    have hunderscore : c ≠ '_' := by
      rintro rfl
      cases hc
    have hrest := ih fun d hd => h d (List.mem_cons_of_mem c hd)
    rw [List.cons_append, readMoreDigits.eq_2 _ _ _ (fun d tail he => absurd he hunderscore),
      if_neg hunderscore, hc, hrest]
    rfl

theorem readWhole_digits (n : Nat) (rest : List Char) :
    readWhole (digitChars n ++ '\n' :: rest) = some (digitChars n, '\n' :: rest) := by
  by_cases hn : n = 0
  · subst hn
    rfl
  · obtain ⟨b, tail, hdigits, hne⟩ := Decimal.head_digits n hn
    have hdecimal := isDecimal_of_mem (n := n)
    have hchars : digitChars n = Char.ofNat b.toNat :: charsOf tail := by
      rw [digitChars, hdigits]
      rfl
    have hzero : Char.ofNat b.toNat ≠ '0' := by
      have hall : ∀ b : UInt8, Char.ofNat b.toNat = '0' → b = Ascii.zero :=
        Hex.of_small (by decide +kernel)
      exact fun he => hne (hall b he)
    rw [hchars] at hdecimal ⊢
    have htail : ∀ c ∈ charsOf tail, isDecimal c = true :=
      fun c hc => hdecimal c (List.mem_cons_of_mem _ hc)
    have hmore := readMoreDigits_digits htail rest
    rw [List.cons_append, readWhole.eq_2 _ (fun tail he => hzero (List.cons.inj he).1), readDigits,
      hdecimal _ List.mem_cons_self, hmore]
    rfl

theorem numeral_digits (n : Nat) : numeral 10 (digitChars n) = n := by
  have hvalue : ∀ (ds : Bytes) (m : Nat), (∀ b ∈ ds, Ascii.isDigit b = true) →
      (charsOf ds).foldl (fun n c => 10 * n + digitValue c) m = ds.foldl Decimal.push m := by
    intro ds
    induction ds with
    | nil => exact fun m _ => rfl
    | cons b ds ih =>
      intro m h
      have hall : ∀ b : UInt8, Ascii.isDigit b = true →
          digitValue (Char.ofNat b.toNat) = b.toNat - 48 := Hex.of_small (by decide +kernel)
      rw [charsOf, List.map_cons, List.foldl_cons, List.foldl_cons, hall b (h b List.mem_cons_self)]
      exact ih _ fun c hc => h c (List.mem_cons_of_mem b hc)
  exact (hvalue _ 0 (Decimal.isDigit_of_mem_digits n)).trans (Decimal.value_digits n)

theorem expectWord_eq_none {input : List Char} (h : DigitLine input) {d : Char} {word : List Char}
    (hd : isDecimal d = false) (hfeed : d ≠ '\n') : expectWord (d :: word) input = none := by
  rw [expectWord, h.expectChar hd hfeed]
  rfl

theorem readSign_digits {input : List Char} (h : DigitLine input) :
    readSign input = (false, input) :=
  readSign.eq_3 input (h.ne (by decide) (by decide)) (h.ne (by decide) (by decide))

theorem readDecimal_digits (n : Nat) (hn : n < Nat.pow 2 63) (rest : List Char) :
    readDecimal (digitChars n ++ '\n' :: rest) = some (.integer n, '\n' :: rest) := by
  have hsign := readSign_digits (digitLine_append (isDecimal_of_mem (n := n)) rest)
  have hfraction : readFraction ('\n' :: rest) = some (none, '\n' :: rest) := rfl
  have hexponent : readExponent ('\n' :: rest) = some (none, '\n' :: rest) := rfl
  have hsigned : signed? false n = some (n : Int) := if_pos hn
  unfold readDecimal
  rw [hsign]
  dsimp only
  rw [readWhole_digits]
  dsimp only
  rw [hfraction]
  dsimp only
  rw [hexponent]
  dsimp only
  rw [if_pos ⟨rfl, rfl⟩, numeral_digits, hsigned]
  rfl

theorem readNumber_digits (n : Nat) (hn : n < Nat.pow 2 63) (rest : List Char) :
    readNumber (digitChars n ++ '\n' :: rest) = some (.integer n, '\n' :: rest) := by
  have hdecimal := isDecimal_of_mem (n := n)
  have hline := digitLine_append hdecimal rest
  have hspecial : readSpecial (digitChars n ++ '\n' :: rest) = none := by
    unfold readSpecial
    rw [readSign_digits hline]
    dsimp only
    rw [expectWord_eq_none hline (by decide) (by decide),
      expectWord_eq_none hline (by decide) (by decide)]
    rfl
  have hsecond : ∀ (d : Char) (tail : List Char), isDecimal d = false → d ≠ '\n' →
      digitChars n ++ '\n' :: rest ≠ '0' :: d :: tail := by
    intro d tail hd hfeed he
    cases hchars : digitChars n with
    | nil =>
      rw [hchars] at he
      exact absurd (List.cons.inj he).1 (by decide)
    | cons c ds =>
      rw [hchars, List.cons_append] at he
      refine (digitLine_append (fun e hds => hdecimal e ?_) rest).ne hd hfeed tail
        (List.cons.inj he).2
      rw [hchars]
      exact List.mem_cons_of_mem c hds
  rw [readNumber.eq_4 _ (fun tail => hsecond 'x' tail (by decide) (by decide))
    (fun tail => hsecond 'o' tail (by decide) (by decide))
    (fun tail => hsecond 'b' tail (by decide) (by decide)), hspecial]
  exact readDecimal_digits n hn rest

theorem readScalar_digits (n : Nat) (hn : n < Nat.pow 2 63) (rest : List Char) :
    readScalar (digitChars n ++ '\n' :: rest) = some (.integer n, '\n' :: rest) := by
  have hline := digitLine_append (isDecimal_of_mem (n := n)) rest
  have htruth : readTruth (digitChars n ++ '\n' :: rest) = none := by
    rw [readTruth, expectWord_eq_none hline (by decide) (by decide),
      expectWord_eq_none hline (by decide) (by decide)]
    rfl
  rw [readScalar, htruth, skipDate?_digits isDecimal_of_mem]
  exact readNumber_digits n hn rest

/-! ## Values -/

theorem readValue_text (depth : Nat) {cs : List Char} (h : ∀ c ∈ cs, Unquoted c)
    (rest : List Char) :
    readValue depth (quoteMark :: (cs ++ quoteMark :: '\n' :: rest))
      = some (.text (String.ofList cs), '\n' :: rest) := by
  have hquote : (isQuote quoteMark || isTick quoteMark) = true := by decide
  rw [readValue.eq_def]
  dsimp only
  rw [if_pos hquote, readString_quoted h]
  rfl

theorem readValue_number (depth n : Nat) (hn : n < Nat.pow 2 63) (rest : List Char) :
    readValue depth (digitChars n ++ '\n' :: rest) = some (.integer n, '\n' :: rest) := by
  have hread := readScalar_digits n hn rest
  cases hchars : digitChars n with
  | nil =>
    have hnil : Decimal.digits n = [] := List.map_eq_nil_iff.mp hchars
    exact absurd hnil (Decimal.digits_ne_nil n)
  | cons c ds =>
    have hc : isDecimal c = true := by
      apply isDecimal_of_mem (n := n)
      rw [hchars]
      exact List.mem_cons_self
    have hmark : (isQuote c || isTick c) = false := by
      rw [isQuote_eq_false hc (by decide), isTick_eq_false hc (by decide)]
      rfl
    have hbracket : c ≠ '[' := ne_of_test hc (by decide)
    have hbrace : c ≠ Char.ofNat 123 := ne_of_test hc (by decide)
    rw [hchars, List.cons_append] at hread
    rw [List.cons_append, readValue.eq_def]
    dsimp only
    rw [if_neg (by rw [hmark]; exact Bool.false_ne_true), if_neg hbracket, if_neg hbrace]
    exact hread

theorem readValue_emptyList (depth : Nat) (rest : List Char) :
    readValue (depth + 1) ('[' :: ']' :: '\n' :: rest) = some (.list [], '\n' :: rest) := rfl

/-! ## Keys -/

structure Bare (key : String) : Prop where
  ne_nil : key.toList ≠ []
  all : key.toList.all isBare = true

instance (key : String) : Decidable (Bare key) :=
  decidable_of_iff (key.toList ≠ [] ∧ key.toList.all isBare = true)
    ⟨fun h => ⟨h.1, h.2⟩, fun h => ⟨h.ne_nil, h.all⟩⟩

theorem Bare.exists_cons {key : String} (h : Bare key) :
    ∃ c cs, key.toList = c :: cs ∧ isBare c = true := by
  obtain ⟨c, cs, hkey⟩ := List.exists_cons_of_ne_nil h.ne_nil
  refine ⟨c, cs, hkey, List.all_eq_true.mp h.all c ?_⟩
  rw [hkey]
  exact List.mem_cons_self

theorem isBlank_of_bare {c : Char} (h : isBare c = true) : isBlank c = false :=
  isBlank_eq_false h (by decide) (by decide)

/-- a key up to a character that goes on with no key -/
theorem readKey_bare {key : String} (h : Bare key) (rest : List Char)
    (hend : ∀ c tail, rest = c :: tail → isBare c = false)
    (hdot : ∀ tail, skipBlanks rest ≠ '.' :: tail) :
    readKey (key.toList ++ rest) = some (([], key), skipBlanks rest) := by
  obtain ⟨c, cs, hkey, hc⟩ := h.exists_cons
  have hmarks : isQuote c = false ∧ isTick c = false :=
    ⟨isQuote_eq_false hc (by decide), isTick_eq_false hc (by decide)⟩
  have hall := List.all_eq_true.mp h.all
  have hstop : rest.takeWhile isBare = [] ∧ rest.dropWhile isBare = rest := by
    cases rest with
    | nil => exact ⟨rfl, rfl⟩
    | cons d tail =>
      rw [List.takeWhile_cons, List.dropWhile_cons, hend d tail rfl]
      exact ⟨rfl, rfl⟩
  have htake : (key.toList ++ rest).takeWhile isBare = c :: cs := by
    rw [List.takeWhile_append_of_pos hall, hstop.1, List.append_nil, hkey]
  have hdrop : (key.toList ++ rest).dropWhile isBare = rest := by
    rw [List.dropWhile_append_of_pos hall, hstop.2]
  have hname : String.ofList (c :: cs) = key := by rw [← hkey, String.ofList_toList]
  have hpart : readPart (key.toList ++ rest) = some (key, rest) := by
    rw [hkey, List.cons_append] at htake hdrop ⊢
    unfold readPart
    dsimp only
    rw [if_neg (by rw [hmarks.1]; exact Bool.false_ne_true),
      if_neg (by rw [hmarks.2]; exact Bool.false_ne_true), htake, hdrop]
    exact congrArg (fun name => some (name, rest)) hname
  have hblank : skipBlanks (key.toList ++ rest) = key.toList ++ rest := by
    rw [hkey, List.cons_append]
    exact skipBlanks_cons (isBlank_of_bare hc) _
  have hparts : readParts maxDepth (key.toList ++ rest) = some ([key], skipBlanks rest) := by
    rw [maxDepth, readParts, hblank, hpart]
    dsimp only
    split
    · rename_i tail he
      exact absurd he (hdot tail)
    · rfl
  rw [readKey, hparts]
  rfl

/-! ## Lines -/

def pairOf (entry : String × Value) : Pair :=
  ⟨[], entry.1, entry.2⟩

/-- a line that adds an entry to the section that is being read, whatever stands after it -/
structure Line (chars : List Char) (entry : String × Value) : Prop where
  head : ∃ c tail, chars = c :: tail ∧ isBare c = true
  reads : ∀ (steps : Nat) (current : Section) (rest : List Char),
    readSections (steps + 1) current (chars ++ rest)
      = readSections steps { current with pairs := pairOf entry :: current.pairs } rest

/-- a bare key, an equals sign and a value up to the end of the line -/
theorem line_of_readValue {key : String} (hkey : Bare key) {first : Char} {chars : List Char}
    {v : Value} (hfirst : isBlank first = false)
    (h : ∀ rest, readValue maxDepth (first :: (chars ++ '\n' :: rest)) = some (v, '\n' :: rest)) :
    Line (key.toList ++ ' ' :: '=' :: ' ' :: first :: (chars ++ ['\n'])) (key, v) := by
  obtain ⟨c, cs, hchars, hc⟩ := hkey.exists_cons
  refine ⟨⟨c, _, by rw [hchars, List.cons_append], hc⟩, fun steps current rest => ?_⟩
  have hread := readKey_bare hkey (' ' :: '=' :: ' ' :: first :: (chars ++ '\n' :: rest))
    (fun d tail he => by cases he; rfl) (fun tail he => by cases he)
  have hafter : skipBlanks (' ' :: '=' :: ' ' :: first :: (chars ++ '\n' :: rest))
      = '=' :: ' ' :: first :: (chars ++ '\n' :: rest) := rfl
  have hblank : skipBlanks (' ' :: first :: (chars ++ '\n' :: rest))
      = first :: (chars ++ '\n' :: rest) := by
    rw [skipBlanks_space, skipBlanks_cons hfirst]
  have hpair : readPair (readValue maxDepth)
      (key.toList ++ ' ' :: '=' :: ' ' :: first :: (chars ++ '\n' :: rest))
        = some (⟨[], key, v⟩, '\n' :: rest) := by
    simp only [readPair, hread, hafter, hblank, h, Option.map_some]
  have hinput : key.toList ++ ' ' :: '=' :: ' ' :: first :: (chars ++ ['\n']) ++ rest
      = key.toList ++ ' ' :: '=' :: ' ' :: first :: (chars ++ '\n' :: rest) := by
    simp only [List.append_assoc, List.cons_append, List.nil_append]
  rw [hinput]
  rw [hchars, List.cons_append] at hpair ⊢
  have hbracket : c ≠ '[' := ne_of_test hc (by decide)
  have hhash : c ≠ '#' := ne_of_test hc (by decide)
  rw [readSections, skipBlanks_cons (isBlank_of_bare hc)]
  split
  · rename_i he
    cases he
  · rename_i he
    exact absurd (List.cons.inj he).1 hbracket
  · rename_i he
    exact absurd (List.cons.inj he).1 hbracket
  · rename_i he
    cases he
    rw [if_neg hhash, lineEnd?_eq_none (ne_of_test hc (by decide)) (ne_of_test hc (by decide)),
      hpair]
    rfl

theorem line_text {key : String} (hkey : Bare key) {value : String}
    (h : ∀ c ∈ value.toList, Unquoted c) :
    Line (textLine key value).toList (key, .text value) := by
  have hchars : (textLine key value).toList = key.toList ++ ' ' :: '=' :: ' ' :: quoteMark ::
      ((value.toList ++ [quoteMark]) ++ ['\n']) := by
    have hbefore : (" = \"").toList = [' ', '=', ' ', quoteMark] := by decide
    have hafter : ("\"\n").toList = [quoteMark, '\n'] := by decide
    rw [textLine, String.toList_append, String.toList_append, String.toList_append, hbefore,
      hafter]
    simp only [List.append_assoc, List.cons_append, List.nil_append]
  rw [hchars]
  refine line_of_readValue hkey (by decide) (fun rest => ?_)
  have hread := readValue_text maxDepth h rest
  rw [String.ofList_toList] at hread
  rw [List.append_assoc]
  exact hread

theorem line_number {key line : String} (hkey : Bare key) {n : Nat}
    (h : numberLine? key n = some line) : Line line.toList (key, .integer n) := by
  unfold numberLine? at h
  split at h
  · rename_i hn
    cases h
    cases hdigits : digitChars n with
    | nil => exact absurd (List.map_eq_nil_iff.mp hdigits) (Decimal.digits_ne_nil n)
    | cons c ds =>
      have hc : isDecimal c = true := by
        apply isDecimal_of_mem (n := n)
        rw [hdigits]
        exact List.mem_cons_self
      have hblank : isBlank c = false := isBlank_eq_false hc (by decide) (by decide)
      have hchars : (key ++ " = " ++ Decimal.text n ++ "\n").toList
          = key.toList ++ ' ' :: '=' :: ' ' :: c :: (ds ++ ['\n']) := by
        have hbefore : (" = ").toList = [' ', '=', ' '] := by decide
        have hafter : ("\n").toList = ['\n'] := by decide
        have hnumber : (Decimal.text n).toList = c :: ds := by
          rw [Decimal.text, toList_text]
          exact hdigits
        rw [String.toList_append, String.toList_append, String.toList_append, hbefore, hafter,
          hnumber]
        simp only [List.append_assoc, List.cons_append, List.nil_append]
      rw [hchars]
      refine line_of_readValue hkey hblank (fun rest => ?_)
      have hread := readValue_number maxDepth n hn rest
      rwa [hdigits] at hread
  · cases h

theorem line_emptyList {key : String} (hkey : Bare key) :
    Line (key ++ " = []\n").toList (key, .list []) := by
  have hchars : (key ++ " = []\n").toList
      = key.toList ++ ' ' :: '=' :: ' ' :: '[' :: ([']'] ++ ['\n']) := by
    have hafter : (" = []\n").toList = [' ', '=', ' ', '[', ']', '\n'] := by decide
    rw [String.toList_append, hafter]
    rfl
  rw [hchars]
  exact line_of_readValue hkey (by decide) (fun rest => readValue_emptyList 78 rest)

/-! ## Sections -/

theorem readSections_blank (steps : Nat) (current : Section) (rest : List Char) :
    readSections (steps + 1) current ('\n' :: rest) = readSections steps current rest := rfl

theorem readSections_end (steps : Nat) (current : Section) :
    readSections (steps + 1) current []
      = some [{ current with pairs := current.pairs.reverse }] := rfl

/-- a header ends the section that is being read and begins a list's next table -/
theorem readSections_header {key : String} (hkey : Bare key) (steps : Nat) (current : Section)
    (rest : List Char) :
    readSections (steps + 1) current
        ('[' :: '[' :: (key.toList ++ ']' :: ']' :: '\n' :: rest))
      = (readSections steps ⟨true, [key], []⟩ rest).map
          ({ current with pairs := current.pairs.reverse } :: ·) := by
  have hread := readKey_bare hkey (']' :: ']' :: '\n' :: rest)
    (fun d tail he => by cases he; rfl) (fun tail he => by cases he)
  have hheader : readHeader true (key.toList ++ ']' :: ']' :: '\n' :: rest)
      = some (⟨true, [key], []⟩, rest) := by
    rw [readHeader, hread]
    rfl
  rw [readSections, skipBlanks_cons (by decide)]
  simp only [hheader]

end PayChannel.Toml
