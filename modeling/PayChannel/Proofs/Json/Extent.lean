import Mathlib
import PayChannel.Json.Record

/-!
# JSON: how much text a value takes

No reader gives back more text than it was given, and a string has at least as many bytes in the
text as it spells.  So a field takes at least as much text as the shortest spelling of its kind, and
a record, in whichever of its forms and with whatever escapes, blanks and other members, at least as
much as its fields together.  A writer on its part spends at most six bytes on one, so a record with
short values is short.

* `length_of_readChars`    a string takes what it spells and a quote;
* `Kind.least`, `Kind.length_of_read`    what a field takes;
* `length_of_readMembers`, `length_of_readElements`    an object and a list;
* `length_of_decodeStart`    a text that begins with a record;
* `Kind.length_write_le`, `length_write_le`    what a writer spends.
-/

set_option linter.unusedSectionVars false

namespace PayChannel.Json

open Ascii

/-! ## Blanks and words -/

theorem length_skipBlanks_le (input : Bytes) : (skipBlanks input).length ≤ input.length :=
  (List.dropWhile_sublist isBlank).length_le

theorem length_of_skipBlanks {input rest : Bytes} {b : UInt8} (h : skipBlanks input = b :: rest) :
    rest.length + 1 ≤ input.length := by
  have hle := length_skipBlanks_le input
  rw [h, List.length_cons] at hle
  exact hle

theorem length_of_expect {word input rest : Bytes} (h : expect word input = .ok rest) :
    rest.length ≤ input.length := by
  induction word generalizing input with
  | nil =>
    cases h
    exact Nat.le_refl _
  | cons x word ih =>
    cases input with
    | nil => cases h
    | cons b input =>
      rw [expect] at h
      split at h
      · exact Nat.le_succ_of_le (ih h)
      · cases h

/-! ## Strings -/

theorem length_utf8_le (code : Nat) : (utf8 code).length ≤ 4 := by
  unfold utf8
  rw [String.length_utf8EncodeChar]
  exact Char.utf8Size_le_four _

theorem length_of_prepend {pre tail bytes rest : Bytes} {n : Nat}
    (h : prepend pre (readChars tail) = .ok (bytes, rest)) (hpre : pre.length ≤ n)
    (ih : ∀ {found : Bytes}, readChars tail = .ok (found, rest) →
      found.length + 1 + rest.length ≤ tail.length) :
    bytes.length + 1 + rest.length ≤ n + tail.length := by
  cases hread : readChars tail with
  | error flaw =>
    rw [hread] at h
    cases h
  | ok found =>
    obtain ⟨found, rest'⟩ := found
    rw [hread] at h
    cases h
    have hfound := ih hread
    rw [List.length_append]
    omega

/-- a string takes at least the bytes that it spells, and the closing quote: an escape is longer
than what it stands for -/
theorem length_of_readChars {input bytes rest : Bytes} (h : readChars input = .ok (bytes, rest)) :
    bytes.length + 1 + rest.length ≤ input.length := by
  fun_induction readChars input generalizing bytes with
  | case2 =>
    cases h
    rw [List.length_cons, List.length_nil]
    omega
  | case5 =>
    rename_i ih
    have hlen := length_of_prepend h (length_utf8_le _) ih
    simp only [List.length_cons]
    omega
  | case13 =>
    rename_i ih
    have hlen := length_of_prepend h (length_utf8_le _) ih
    simp only [List.length_cons]
    omega
  | case17 =>
    rename_i ih
    have hlen := length_of_prepend h (Nat.le_refl 1) ih
    simp only [List.length_cons]
    omega
  | case19 =>
    rename_i ih
    have hlen := length_of_prepend h (Nat.le_refl 1) ih
    simp only [List.length_cons]
    omega
  | _ => cases h

theorem length_of_skipChars {input rest : Bytes} (h : skipChars input = .ok rest) :
    rest.length ≤ input.length := by
  fun_induction skipChars input with
  | case2 =>
    cases h
    exact Nat.le_succ _
  | case5 | case8 | case10 =>
    rename_i ih
    have hlen := ih h
    simp only [List.length_cons]
    omega
  | _ => cases h

theorem length_of_readQuoted {input bytes rest : Bytes}
    (h : readQuoted input = .ok (bytes, rest)) :
    bytes.length + 2 + rest.length ≤ input.length := by
  unfold readQuoted at h
  split at h
  · cases h
  · rename_i b tail hblanks
    have htail := length_of_skipBlanks hblanks
    split at h
    · have hchars := length_of_readChars h
      omega
    · cases h

/-! ## Numbers -/

theorem length_of_span {input digits rest : Bytes} (h : Decimal.span input = (digits, rest)) :
    rest.length ≤ input.length := by
  cases h
  exact (List.dropWhile_sublist isDigit).length_le

theorem length_of_finishOther {mantissa : Nat} {exponent : Int} {input rest : Bytes} {n : Number}
    (h : finishOther mantissa exponent input = .ok (n, rest)) : rest.length ≤ input.length := by
  unfold finishOther at h
  split at h
  · cases h
  · cases h
    exact Nat.le_refl _

theorem length_of_readExponent {mantissa : Nat} {exponent : Int} {input rest : Bytes} {n : Number}
    (h : readExponent mantissa exponent input = .ok (n, rest)) : rest.length ≤ input.length := by
  unfold readExponent at h
  split at h
  rename_i negative signless hsign
  have hsignless : signless.length ≤ input.length := by
    split at hsign
    · split at hsign
      · cases hsign
        exact Nat.le_succ _
      · split at hsign
        · cases hsign
          exact Nat.le_succ _
        · cases hsign
          exact Nat.le_refl _
    · cases hsign
      exact Nat.le_refl _
  split at h
  · cases h
  · cases h
  · rename_i hspan
    exact (length_of_finishOther h).trans ((length_of_span hspan).trans hsignless)

theorem length_of_readTail {mantissa : Nat} {exponent : Int} {input rest : Bytes} {n : Number}
    (h : readTail mantissa exponent input = .ok (n, rest)) : rest.length ≤ input.length := by
  unfold readTail at h
  split at h
  · split at h
    · exact Nat.le_succ_of_le (length_of_readExponent h)
    · exact length_of_finishOther h
  · exact length_of_finishOther h

theorem length_of_readFraction {mantissa : Nat} {exponent : Int} {input rest : Bytes} {n : Number}
    (h : readFraction mantissa exponent input = .ok (n, rest)) : rest.length ≤ input.length := by
  unfold readFraction at h
  split at h
  · cases h
  · cases h
  · rename_i hspan
    exact (length_of_readTail h).trans (length_of_span hspan)

theorem length_of_readNumber {negative : Bool} {input rest : Bytes} {n : Number}
    (h : readNumber negative input = .ok (n, rest)) : rest.length ≤ input.length := by
  unfold readNumber at h
  split at h
  · cases h
  · cases h
  · rename_i hspan
    have hdigits := length_of_span hspan
    split at h
    · cases h
    dsimp only at h
    split at h
    · rw [List.length_cons] at hdigits
      split at h
      · exact (length_of_readFraction h).trans (Nat.le_of_succ_le hdigits)
      · split at h
        · exact (length_of_readExponent h).trans (Nat.le_of_succ_le hdigits)
        · split at h
          · cases h
            exact hdigits
          · exact (length_of_finishOther h).trans hdigits
    · split at h
      · cases h
        exact Nat.zero_le _
      · exact (length_of_finishOther h).trans (Nat.zero_le _)

theorem length_of_readAmount {input rest : Bytes} {a : Amount}
    (h : readAmount input = .ok (a, rest)) : rest.length ≤ input.length := by
  unfold readAmount at h
  split at h
  · cases h
  · cases h
  · rename_i hspan
    split at h
    · cases h
    · split at h
      · cases h
      · cases h
        exact length_of_span hspan

theorem length_of_readWord {bits : Nat} {input rest : Bytes} {w : Word bits}
    (h : readWord bits input = .ok (w, rest)) : rest.length ≤ input.length := by
  unfold readWord at h
  split at h
  · cases h
  · rename_i b tail hblanks
    have htail := length_of_skipBlanks hblanks
    split at h
    · split at h
      · cases h
      · cases h
      · rename_i hnumber
        have hrest := length_of_readNumber hnumber
        rw [List.length_cons] at hrest
        split at h
        · cases h
        · cases h
          exact hrest.trans htail
    · cases h

theorem length_of_skipExponent {input rest : Bytes} (h : skipExponent input = .ok rest) :
    rest.length ≤ input.length := by
  unfold skipExponent at h
  dsimp only at h
  split at h
  · cases h
  · rename_i hspan
    cases h
    refine (length_of_span hspan).trans ?_
    split
    · split
      · exact Nat.le_succ _
      · exact Nat.le_refl _
    · exact Nat.le_refl _

theorem length_of_skipTail {input rest : Bytes} (h : skipTail input = .ok rest) :
    rest.length ≤ input.length := by
  unfold skipTail at h
  split at h
  · split at h
    · exact Nat.le_succ_of_le (length_of_skipExponent h)
    · cases h
      exact Nat.le_refl _
  · cases h
    exact Nat.le_refl _

theorem length_of_skipNumber {input rest : Bytes} (h : skipNumber input = .ok rest) :
    rest.length ≤ input.length := by
  unfold skipNumber at h
  split at h
  · cases h
  · rename_i hspan
    have hdigits := length_of_span hspan
    split at h
    · cases h
    · split at h
      · split at h
        · split at h
          · cases h
          · rename_i hfraction
            rw [List.length_cons] at hdigits
            exact (length_of_skipTail h).trans
              ((length_of_span hfraction).trans (Nat.le_of_succ_le hdigits))
        · exact (length_of_skipTail h).trans hdigits
      · cases h
        exact Nat.zero_le _

/-! ## Values that are skipped -/

theorem length_of_skipMemberName {input rest : Bytes} (h : skipMemberName input = .ok rest) :
    rest.length ≤ input.length := by
  unfold skipMemberName at h
  split at h
  · cases h
  · rename_i hname
    split at h
    · unfold skipName at h
      split at h
      · cases h
      · rename_i hchars
        split at h
        · cases h
        · rename_i hcolon
          split at h
          · cases h
            have h1 := length_of_skipBlanks hname
            have h2 := length_of_skipChars hchars
            have h3 := length_of_skipBlanks hcolon
            omega
          · cases h
    · cases h

theorem length_of_skipScalar {b : UInt8} {input rest : Bytes}
    (h : skipScalar b input = .ok rest) : rest.length ≤ input.length + 1 := by
  unfold skipScalar at h
  split at h
  · exact Nat.le_succ_of_le (length_of_expect h)
  split at h
  · exact Nat.le_succ_of_le (length_of_expect h)
  split at h
  · exact Nat.le_succ_of_le (length_of_expect h)
  split at h
  · exact Nat.le_succ_of_le (length_of_skipNumber h)
  split at h
  · exact length_of_skipNumber h
  split at h
  · exact Nat.le_succ_of_le (length_of_skipChars h)
  · cases h

theorem length_of_skipNested {steps : Nat} {after : Bool} {frames : List Frame}
    {input rest : Bytes} (h : skipNested steps after frames input = .ok rest) :
    rest.length ≤ input.length := by
  fun_induction skipNested steps after frames input with
  | case2 =>
    cases h
    exact Nat.le_refl _
  | case4 | case5 | case9 | case10 | case14 | case15 | case17 | case19 | case21 =>
    -- one more bracket, name or value has been passed, and the rest is what its reader left
    grind [→ length_of_skipBlanks, → length_of_skipMemberName, → length_of_skipScalar]
  | _ => cases h

theorem length_of_skipValue {input rest : Bytes} (h : skipValue input = .ok rest) :
    rest.length ≤ input.length :=
  length_of_skipNested h

/-! ## Fields -/

/-- the least count of bytes that a value of a kind takes; that of an account is two quotes and 64
digits, that of other kinds is left open -/
def Kind.least : Kind → Nat
  | account => 66
  | _ => 0

theorem length_of_dropMarks (text : Bytes) : (Hex.dropMarks text).length ≤ text.length := by
  fun_induction Hex.dropMarks text with
  | case1 =>
    rename_i ih
    rw [List.length_cons, List.length_cons]
    omega
  | _ => exact Nat.le_refl _

theorem length_of_ofText {text : Bytes} {a : Account} (h : Account.ofText text = .ok a) :
    64 ≤ text.length := by
  unfold Account.ofText at h
  split at h
  · rename_i bytes hbytes
    have hmarks := length_of_dropMarks text
    obtain ⟨-, hdigits⟩ := Hex.length_of_decodeSized 32 _ bytes hbytes
    omega
  · cases h

theorem readSpelled_eq_ok {α : Type} {spell : Bytes → Except HexError α} {input rest : Bytes}
    {a : α} (h : readSpelled spell input = .ok (a, rest)) :
    ∃ bytes, readQuoted input = .ok (bytes, rest) ∧ spell bytes = .ok a := by
  unfold readSpelled at h
  split at h
  · cases h
  · rename_i bytes tail hquoted
    split at h
    · rename_i hspelled
      cases h
      exact ⟨bytes, hquoted, hspelled⟩
    · split at h
      · cases h
      · cases h

theorem Kind.length_of_read {kind : Kind} {input rest : Bytes} {v : kind.Value}
    (h : kind.read input = .ok (v, rest)) : kind.least + rest.length ≤ input.length := by
  cases kind with
  | word bits =>
    show 0 + rest.length ≤ input.length
    rw [Nat.zero_add]
    exact length_of_readWord h
  | amount =>
    show 0 + rest.length ≤ input.length
    rw [Nat.zero_add]
    exact (length_of_readAmount h).trans (length_skipBlanks_le input)
  | account =>
    show 66 + rest.length ≤ input.length
    obtain ⟨bytes, hquoted, hspelled⟩ := readSpelled_eq_ok h
    have htext := length_of_ofText hspelled
    have hlen := length_of_readQuoted hquoted
    omega
  | octets =>
    show 0 + rest.length ≤ input.length
    obtain ⟨bytes, hquoted, -⟩ := readSpelled_eq_ok h
    have hlen := length_of_readQuoted hquoted
    omega
  | text =>
    show 0 + rest.length ≤ input.length
    simp only [Kind.read] at h
    split at h
    · cases h
    · rename_i hquoted
      have hlen := length_of_readQuoted hquoted
      split at h
      · cases h
      · cases h
        omega

/-! ## Objects -/

def least : Layout → Nat
  | [] => 0
  | field :: fields => field.2.least + least fields

def leastRead : (layout : Layout) → Slots layout → Nat
  | [], _ => 0
  | field :: fields, (slot, slots) =>
    (if slot.isSome then field.2.least else 0) + leastRead fields slots

theorem leastRead_noSlots (layout : Layout) : leastRead layout (noSlots layout) = 0 := by
  induction layout with
  | nil => rfl
  | cons field fields ih =>
    rw [noSlots, leastRead, ih]
    rfl

theorem leastRead_of_allSlots? {layout : Layout} {slots : Slots layout} {vs : Values layout}
    (h : allSlots? layout slots = some vs) : leastRead layout slots = least layout := by
  induction layout with
  | nil => rfl
  | cons field fields ih =>
    obtain ⟨slot, slots⟩ := slots
    unfold allSlots? at h
    split at h
    · rename_i v vs' hrest
      rw [leastRead, ih hrest]
      rfl
    · cases h

theorem length_of_readColon {input rest : Bytes} (h : readColon input = .ok rest) :
    rest.length ≤ input.length := by
  unfold readColon at h
  split at h
  · cases h
  · rename_i hblanks
    split at h
    · cases h
      exact Nat.le_of_succ_le (length_of_skipBlanks hblanks)
    · cases h

/-- a member takes at least what it adds to the values that have been read -/
theorem length_of_readMember {layout : Layout} {slots slots' : Slots layout}
    {name input rest : Bytes} (h : readMember layout slots name input = .ok (slots', rest)) :
    leastRead layout slots' + rest.length ≤ leastRead layout slots + input.length := by
  induction layout with
  | nil =>
    unfold readMember at h
    split at h
    · cases h
    · split at h
      · cases h
      · rename_i hcolon
        split at h
        · cases h
        · rename_i hvalue
          cases h
          have hle := (length_of_skipValue hvalue).trans (length_of_readColon hcolon)
          exact Nat.add_le_add_left hle _
  | cons field fields ih =>
    obtain ⟨fieldName, kind⟩ := field
    obtain ⟨slot, slots⟩ := slots
    unfold readMember at h
    split at h
    · split at h
      · cases h
      · split at h
        · cases h
        · rename_i hcolon
          split at h
          · cases h
          · rename_i v tail hvalue
            cases h
            have h1 := length_of_readColon hcolon
            have h2 := Kind.length_of_read hvalue
            show kind.least + leastRead fields slots + rest.length
              ≤ 0 + leastRead fields slots + input.length
            omega
    · split at h
      · cases h
      · rename_i slots'' tail hmember
        cases h
        have hrest := ih hmember
        rw [leastRead, leastRead]
        omega

theorem length_of_nextMember {isFirst : Bool} {input after : Bytes} {start : Option Bytes}
    (h : nextMember isFirst input = .ok (start, after)) :
    after.length ≤ input.length ∧ ∀ s, start = some s → s = after := by
  unfold nextMember at h
  split at h
  · cases h
  · rename_i hblanks
    have hlen := Nat.le_of_succ_le (length_of_skipBlanks hblanks)
    split at h
    · cases h
      exact ⟨hlen, fun s hs => nomatch hs⟩
    · split at h
      · split at h
        · cases h
          exact ⟨hlen, fun s hs => (Option.some.inj hs).symm⟩
        · cases h
      · split at h
        · split at h
          · cases h
          · rename_i hsecond
            have hlen' := Nat.le_of_succ_le (length_of_skipBlanks hsecond)
            split at h
            · cases h
              exact ⟨hlen'.trans hlen, fun s hs => (Option.some.inj hs).symm⟩
            · cases h
        · cases h

/-- an object takes at least what its fields do, those that have been read before set aside -/
theorem length_of_readMembers {layout : Layout} {steps : Nat} {isFirst : Bool}
    {slots : Slots layout} {input rest : Bytes} {vs : Values layout}
    (h : readMembers layout steps isFirst slots input = .ok (vs, rest)) :
    least layout + rest.length ≤ leastRead layout slots + input.length := by
  induction steps generalizing isFirst slots input with
  | zero => cases h
  | succ steps ih =>
    rw [readMembers] at h
    split at h
    · cases h
    · rename_i hnext
      have hlen := (length_of_nextMember hnext).1
      split at h
      · cases h
      · rename_i hall
        cases h
        rw [leastRead_of_allSlots? hall]
        omega
    · rename_i start after hnext
      obtain ⟨hlen, hstart⟩ := length_of_nextMember hnext
      obtain rfl := hstart start rfl
      split at h
      · cases h
      · rename_i hname
        split at h
        · cases h
        · rename_i hmember
          have h1 := length_of_readChars hname
          have h2 := length_of_readMember hmember
          have h3 := ih h
          omega

/-! ## Lists -/

theorem length_of_nextElement {isFirst : Bool} {input after start : Bytes}
    (h : nextElement isFirst input = .ok (some start, after)) : start.length ≤ input.length := by
  unfold nextElement at h
  split at h
  · cases h
  · rename_i hblanks
    have hlen := length_of_skipBlanks hblanks
    split at h
    · cases h
    · split at h
      · cases h
        exact hlen
      · split at h
        · split at h
          · cases h
          · rename_i hsecond
            have hlen' := length_of_skipBlanks hsecond
            split at h
            · cases h
            · cases h
              exact hlen'.trans (Nat.le_of_succ_le hlen)
        · cases h

theorem length_of_readElements {layout : Layout} {isFirst : Bool} {input rest : Bytes}
    {vs : Values layout} (h : readElements layout isFirst input = .ok (vs, rest)) :
    least layout + rest.length ≤ input.length := by
  induction layout generalizing isFirst input with
  | nil =>
    cases h
    exact Nat.le_of_eq (Nat.zero_add _)
  | cons field fields ih =>
    obtain ⟨name, kind⟩ := field
    unfold readElements at h
    split at h
    · cases h
    · cases h
    · rename_i hnext
      split at h
      · cases h
      · rename_i hvalue
        split at h
        · cases h
        · rename_i hrest
          cases h
          have h1 := length_of_nextElement hnext
          have h2 := Kind.length_of_read hvalue
          have h3 := ih hrest
          show kind.least + least fields + rest.length ≤ input.length
          omega

theorem length_of_readListEnd {input rest : Bytes} (h : readListEnd input = .ok rest) :
    rest.length ≤ input.length := by
  unfold readListEnd at h
  split at h
  · cases h
  · rename_i hblanks
    split at h
    · cases h
      exact Nat.le_of_succ_le (length_of_skipBlanks hblanks)
    · cases h

/-! ## Records -/

theorem length_of_readValues {layout : Layout} {input rest : Bytes} {vs : Values layout}
    (h : readValues layout input = .ok (vs, rest)) : least layout + rest.length ≤ input.length := by
  unfold readValues at h
  split at h
  · cases h
  · rename_i hblanks
    have hlen := length_of_skipBlanks hblanks
    split at h
    · have hobject := length_of_readMembers h
      rw [leastRead_noSlots] at hobject
      omega
    · split at h
      · split at h
        · cases h
        · rename_i helements
          split at h
          · cases h
          · rename_i hend
            cases h
            have h1 := length_of_readElements helements
            have h2 := length_of_readListEnd hend
            omega
      · cases h

theorem length_of_decodeStart {α : Type} [Record α] {text : Bytes} {a : α}
    (h : decodeStart α text = .ok a) : least (Record.layout α) ≤ text.length := by
  unfold decodeStart at h
  split at h
  · cases h
  · rename_i hread
    unfold read at hread
    split at hread
    · cases hread
    · rename_i hvalues
      exact Nat.le_of_add_right_le (length_of_readValues hvalues)

/-! ## What is written -/

theorem length_digitsBefore_le (count : Nat) {n places : Nat} (h : n < 10 ^ (places + 1))
    (rest : Bytes) : (Decimal.digitsBefore count n rest).length ≤ places + 1 + rest.length := by
  induction count generalizing n places rest with
  | zero => exact Nat.le_add_left _ _
  | succ count ih =>
    unfold Decimal.digitsBefore
    split
    · rw [List.length_cons]
      omega
    · rename_i hn
      cases places with
      | zero => exact absurd h hn
      | succ places =>
        have hdiv : n / 10 < 10 ^ (places + 1) := by
          rw [pow_succ] at h
          exact Nat.div_lt_of_lt_mul (Nat.mul_comm _ _ ▸ h)
        have hlen := ih hdiv (Decimal.digit n :: rest)
        rw [List.length_cons] at hlen
        omega

theorem length_digits_le (bits : Nat) {n : Nat} (h : n < 2 ^ bits) :
    (Decimal.digits n).length ≤ bits + 1 := by
  have hpow : n < 10 ^ (bits + 1) :=
    h.trans_le ((Nat.pow_le_pow_left (by decide) bits).trans
      (Nat.pow_le_pow_right (by decide) (Nat.le_succ bits)))
  exact length_digitsBefore_le (n + 1) hpow []

theorem length_escape_le (b : UInt8) : (escape b).length ≤ 6 :=
  Hex.of_small (P := fun b => (escape b).length ≤ 6) (by decide +kernel) b

theorem length_writeQuoted_le (bytes : Bytes) :
    (writeQuoted bytes).length ≤ 6 * bytes.length + 2 := by
  have hescaped : (bytes.flatMap escape).length ≤ 6 * bytes.length := by
    induction bytes with
    | nil => exact Nat.le_refl _
    | cons b rest ih =>
      have hb := length_escape_le b
      rw [List.flatMap_cons, List.length_append, List.length_cons]
      omega
  unfold writeQuoted
  rw [List.length_append, List.length_cons, List.length_singleton]
  omega

/-- whether a value is short: a number of at most 64 bits, or at most 64 bytes; amounts and accounts
always are -/
def Kind.Short : (kind : Kind) → kind.Value → Prop
  | word bits, _ => bits ≤ 64
  | amount, _ => True
  | account, _ => True
  | octets, bytes => bytes.length ≤ 64
  | text, s => (Bytes.ofString s).length ≤ 64

theorem Kind.length_write_le {kind : Kind} {v : kind.Value} (h : kind.Short v) :
    (kind.write v).length ≤ 770 := by
  cases kind with
  | word bits =>
    have hlen := length_digits_le bits v.isLt
    exact hlen.trans ((Nat.succ_le_succ h).trans (by decide))
  | amount => exact (length_digits_le 128 v.isLt).trans (by decide)
  | account =>
    have hlen := length_writeQuoted_le (Hex.encode v.bytes)
    rw [Hex.length_encode, v.length_eq] at hlen
    exact hlen.trans (by decide)
  | octets =>
    have hlen := length_writeQuoted_le (Hex.encode v)
    rw [Hex.length_encode] at hlen
    have hshort : v.length ≤ 64 := h
    exact hlen.trans (by omega)
  | text =>
    have hlen := length_writeQuoted_le (Bytes.ofString v)
    have hshort : (Bytes.ofString v).length ≤ 64 := h
    exact hlen.trans (by omega)

def ShortValues : (layout : Layout) → Values layout → Prop
  | [], _ => True
  | (_, kind) :: fields, (v, vs) => kind.Short v ∧ ShortValues fields vs

/-- with names of at most 16 bytes and short values, a field takes at most 870 bytes -/
theorem length_writeMembers_le {layout : Layout} {vs : Values layout}
    (hnames : ∀ field ∈ layout, (Bytes.ofString field.1).length ≤ 16)
    (hvalues : ShortValues layout vs) :
    (writeMembers layout vs).length ≤ 870 * layout.length := by
  induction layout with
  | nil => exact Nat.le_refl 0
  | cons field fields ih =>
    obtain ⟨name, kind⟩ := field
    obtain ⟨v, vs⟩ := vs
    have hname := length_writeQuoted_le (Bytes.ofString name)
    have hshort : (Bytes.ofString name).length ≤ 16 := hnames (name, kind) List.mem_cons_self
    have hvalue := Kind.length_write_le hvalues.1
    have hrest := ih (fun field h => hnames field (List.mem_cons_of_mem _ h)) hvalues.2
    show (comma :: writeQuoted (Bytes.ofString name) ++ colon :: kind.write v
      ++ writeMembers fields vs).length ≤ _
    rw [List.length_append, List.length_append, List.length_cons, List.length_cons,
      List.length_cons]
    omega

theorem length_write_le {α : Type} [Record α] {a : α}
    (hnames : ∀ field ∈ Record.layout α, (Bytes.ofString field.1).length ≤ 16)
    (hvalues : ShortValues (Record.layout α) (Record.values a)) :
    (write a).length ≤ 870 * (Record.layout α).length + 2 := by
  have hmembers := length_writeMembers_le hnames hvalues
  unfold write writeObject
  rw [List.length_append, List.length_cons, List.length_drop, List.length_singleton]
  omega

end PayChannel.Json
