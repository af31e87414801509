import Mathlib
import PayChannel.Json.Kind
import PayChannel.Proofs.Text

/-!
# JSON: what is written is read

A value that has been written is read back by its kind, and can be skipped by a reader who does not
know its field.  Both stop where the value ends, which for a number has to be seen from the byte
that follows it.

* `readChars_escaped`, `skipChars_escaped`    strings, whatever bytes they hold;
* `Kind.read_write`    a value of a kind;
* `skipValue_write`    a value that does not matter.
-/

set_option linter.unusedSectionVars false

namespace PayChannel.Json

open Ascii

/-- what follows a written value: a byte that does not go on with a number -/
def Stops (rest : Bytes) : Prop :=
  ∃ b tail, rest = b :: tail ∧ (b = comma ∨ b = closeBrace)

/-! ## Strings -/

theorem hexUnit?_control (b : UInt8) (h : b < 32) :
    hexUnit? 48 48 (Hex.digit (b >>> 4)) (Hex.digit (b &&& 15)) = some b.toNat :=
  Hex.of_small (P := fun b => b < 32 →
    hexUnit? 48 48 (Hex.digit (b >>> 4)) (Hex.digit (b &&& 15)) = some b.toNat)
    (by decide +kernel) b h

theorem utf8_control (b : UInt8) (h : b < 32) : utf8 b.toNat = [b] :=
  Bytes.utf8EncodeChar_ofNat b (UInt8.lt_trans h (by decide))

theorem escape_eq (b : UInt8) :
    (∃ e, escape b = [backslash, e] ∧ e ≠ escapeU ∧ shortEscape? e = some b) ∨
    (b < 32 ∧ escape b
      = [backslash, escapeU, 48, 48, Hex.digit (b >>> 4), Hex.digit (b &&& 15)]) ∨
    (escape b = [b] ∧ b ≠ quote ∧ b ≠ backslash ∧ ¬ b < 32) := by
  have hshort : ∀ e, e ≠ escapeU → shortEscape? e = some b → escape b = [backslash, e] →
      ∃ e, escape b = [backslash, e] ∧ e ≠ escapeU ∧ shortEscape? e = some b :=
    fun e h1 h2 h3 => ⟨e, h3, h1, h2⟩
  by_cases h1 : b = quote
  · subst h1
    exact .inl (hshort quote (by decide) (by decide) (by decide))
  by_cases h2 : b = backslash
  · subst h2
    exact .inl (hshort backslash (by decide) (by decide) (by decide))
  by_cases h3 : b = 8
  · subst h3
    exact .inl (hshort 98 (by decide) (by decide) (by decide))
  by_cases h4 : b = 12
  · subst h4
    exact .inl (hshort 102 (by decide) (by decide) (by decide))
  by_cases h5 : b = lineFeed
  · subst h5
    exact .inl (hshort 110 (by decide) (by decide) (by decide))
  by_cases h6 : b = carriageReturn
  · subst h6
    exact .inl (hshort 114 (by decide) (by decide) (by decide))
  by_cases h7 : b = tab
  · subst h7
    exact .inl (hshort 116 (by decide) (by decide) (by decide))
  have hrest : escape b = if b < 32 then
      [backslash, escapeU, 48, 48, Hex.digit (b >>> 4), Hex.digit (b &&& 15)] else [b] := by
    unfold escape
    rw [if_neg h1, if_neg h2, if_neg h3, if_neg h4, if_neg h5, if_neg h6, if_neg h7]
  by_cases h8 : b < 32
  · rw [if_pos h8] at hrest
    exact .inr (.inl ⟨h8, hrest⟩)
  · rw [if_neg h8] at hrest
    exact .inr (.inr ⟨hrest, h1, h2, h8⟩)

theorem readChars_escape (b : UInt8) (rest : Bytes) :
    readChars (escape b ++ rest) = prepend [b] (readChars rest) := by
  rcases escape_eq b with ⟨e, he, hu, hs⟩ | ⟨hlt, he⟩ | ⟨he, hq, hb, hlt⟩
  · rw [he]
    show readChars (backslash :: e :: rest) = _
    rw [readChars.eq_def]
    simp only [if_neg (show backslash ≠ quote by decide), if_pos, if_neg hu, hs]
  · rw [he]
    show readChars (backslash :: escapeU :: 48 :: 48 :: Hex.digit (b >>> 4) ::
      Hex.digit (b &&& 15) :: rest) = _
    have hunit : b.toNat < 0xD800 := by
      have := b.toNat_lt
      omega
    rw [readChars.eq_def]
    simp only [if_neg (show backslash ≠ quote by decide), if_pos, hexUnit?_control b hlt, hunit,
      true_or, utf8_control b hlt]
  · rw [he]
    show readChars (b :: rest) = _
    rw [readChars.eq_def]
    simp only [if_neg hq, if_neg hb, if_neg hlt]

theorem skipChars_escape (b : UInt8) (rest : Bytes) :
    skipChars (escape b ++ rest) = skipChars rest := by
  rcases escape_eq b with ⟨e, he, hu, hs⟩ | ⟨hlt, he⟩ | ⟨he, hq, hb, hlt⟩
  · rw [he]
    show skipChars (backslash :: e :: rest) = _
    rw [skipChars.eq_def]
    simp [if_neg (show backslash ≠ quote by decide), hu, hs]
  · rw [he]
    show skipChars (backslash :: escapeU :: 48 :: 48 :: Hex.digit (b >>> 4) ::
      Hex.digit (b &&& 15) :: rest) = _
    rw [skipChars.eq_def]
    simp [if_neg (show backslash ≠ quote by decide), hexUnit?_control b hlt]
  · rw [he]
    show skipChars (b :: rest) = _
    rw [skipChars.eq_def]
    simp only [if_neg hq, if_neg hb, if_neg hlt]

/-- whatever bytes have been escaped, reading gives them back -/
theorem readChars_escaped (bytes rest : Bytes) :
    readChars (bytes.flatMap escape ++ quote :: rest) = .ok (bytes, rest) := by
  induction bytes with
  | nil => rw [List.flatMap_nil, List.nil_append, readChars.eq_def]; simp
  | cons b tail ih =>
    rw [List.flatMap_cons, List.append_assoc, readChars_escape, ih]
    rfl

theorem skipChars_escaped (bytes rest : Bytes) :
    skipChars (bytes.flatMap escape ++ quote :: rest) = .ok rest := by
  induction bytes with
  | nil => rw [List.flatMap_nil, List.nil_append, skipChars.eq_def]; simp
  | cons b tail ih => rw [List.flatMap_cons, List.append_assoc, skipChars_escape, ih]

theorem skipBlanks_cons {b : UInt8} (h : isBlank b = false) (rest : Bytes) :
    skipBlanks (b :: rest) = b :: rest := by
  unfold skipBlanks
  rw [List.dropWhile_cons, h]
  rfl

theorem writeQuoted_append (bytes rest : Bytes) :
    writeQuoted bytes ++ rest = quote :: (bytes.flatMap escape ++ quote :: rest) := by
  unfold writeQuoted
  rw [List.cons_append, List.cons_append, List.append_assoc, List.singleton_append]

theorem readQuoted_written (bytes rest : Bytes) :
    readQuoted (writeQuoted bytes ++ rest) = .ok (bytes, rest) := by
  rw [writeQuoted_append, readQuoted, skipBlanks_cons (by decide)]
  show (if quote = quote then readChars _ else _) = _
  rw [if_pos rfl, readChars_escaped]

theorem readSpelled_written {α : Type} {spell : Bytes → Except HexError α} {bytes : Bytes} {a : α}
    (h : spell bytes = .ok a) (rest : Bytes) :
    readSpelled spell (writeQuoted bytes ++ rest) = .ok (a, rest) := by
  simp only [readSpelled, readQuoted_written, h]

/-! ## Numbers -/

theorem isDigit_of_stops {rest : Bytes} (h : Stops rest) :
    ∀ b tail, rest = b :: tail → isDigit b = false := by
  obtain ⟨c, tail', rfl, hc⟩ := h
  rintro b tail hb
  cases hb
  rcases hc with rfl | rfl
  · rfl
  · rfl

/-- a written number begins with a digit, and with a zero only if it is zero -/
theorem digits_eq_cons (n : Nat) :
    ∃ d ds, Decimal.digits n = d :: ds ∧ isDigit d = true ∧ ¬ (d = zero ∧ ds ≠ []) := by
  have hmem := Decimal.isDigit_of_mem_digits n
  by_cases hn : n = 0
  · subst hn
    exact ⟨zero, [], by decide, by decide, fun h => h.2 rfl⟩
  · obtain ⟨d, ds, hd, hne⟩ := Decimal.head_digits n hn
    refine ⟨d, ds, hd, hmem d ?_, fun h => hne h.1⟩
    rw [hd]
    exact List.mem_cons_self

theorem span_digits (n : Nat) {rest : Bytes} (h : Stops rest) :
    Decimal.span (Decimal.digits n ++ rest) = (Decimal.digits n, rest) :=
  Decimal.span_append _ _ (Decimal.isDigit_of_mem_digits n) (isDigit_of_stops h)

theorem le_foldl_push (ds : Bytes) (m : Nat) : m ≤ ds.foldl Decimal.push m := by
  induction ds generalizing m with
  | nil => exact Nat.le_refl m
  | cons d ds ih =>
    have h := ih (Decimal.push m d)
    have hpush : m ≤ Decimal.push m d := by
      unfold Decimal.push
      omega
    exact Nat.le_trans hpush h

theorem takeMantissa_of_lt (ds : Bytes) (m : Nat) (h : ds.foldl Decimal.push m < Nat.pow 2 64) :
    takeMantissa m ds = (ds.foldl Decimal.push m, []) := by
  induction ds generalizing m with
  | nil => rfl
  | cons d ds ih =>
    rw [List.foldl_cons] at h ⊢
    have hfit : Decimal.push m d < Nat.pow 2 64 :=
      Nat.lt_of_le_of_lt (le_foldl_push ds (Decimal.push m d)) h
    rw [takeMantissa, if_pos hfit]
    exact ih (Decimal.push m d) h

theorem readNumber_digits (n : Nat) (hn : n < Nat.pow 2 64) {rest : Bytes} (h : Stops rest) :
    readNumber false (Decimal.digits n ++ rest) = .ok (.natural n, rest) := by
  obtain ⟨d, ds, hd, -, hzero⟩ := digits_eq_cons n
  have hspan := span_digits n h
  have hvalue := Decimal.value_digits n
  obtain ⟨b, tail, rfl, hb⟩ := h
  rw [hd] at hspan hvalue ⊢
  have htake : takeMantissa 0 (d :: ds) = (n, []) := by
    have hfold : (d :: ds).foldl Decimal.push 0 = n := hvalue
    rw [takeMantissa_of_lt (d :: ds) 0 (by rw [hfold]; exact hn), hfold]
  have hdot : b ≠ dot ∧ ¬ (b = 101 ∨ b = 69) := by
    rcases hb with rfl | rfl
    · decide
    · decide
  unfold readNumber
  simp only [hspan, if_neg hzero, htake, if_neg hdot.1, if_neg hdot.2]
  rfl

theorem readAmount_digits (a : Amount) {rest : Bytes} (h : Stops rest) :
    readAmount (Decimal.digits a.val ++ rest) = .ok (a, rest) := by
  obtain ⟨d, ds, hd, -, hzero⟩ := digits_eq_cons a.val
  have hspan := span_digits a.val h
  have hvalue := Decimal.value_digits a.val
  rw [hd] at hspan hvalue ⊢
  unfold readAmount
  simp only [hspan, if_neg hzero, hvalue, Word.ofNat?_val]

theorem skipNumber_digits (n : Nat) {rest : Bytes} (h : Stops rest) :
    skipNumber (Decimal.digits n ++ rest) = .ok rest := by
  obtain ⟨d, ds, hd, -, hzero⟩ := digits_eq_cons n
  have hspan := span_digits n h
  obtain ⟨b, tail, rfl, hb⟩ := h
  rw [hd] at hspan ⊢
  have hdot : b ≠ dot ∧ ¬ (b = 101 ∨ b = 69) := by
    rcases hb with rfl | rfl
    · decide
    · decide
  unfold skipNumber
  simp only [hspan, if_neg hzero, if_neg hdot.1, skipTail, if_neg hdot.2]

theorem skipBlanks_digits (n : Nat) (rest : Bytes) :
    skipBlanks (Decimal.digits n ++ rest) = Decimal.digits n ++ rest := by
  obtain ⟨d, ds, hd, hdigit, -⟩ := digits_eq_cons n
  have hblank : isBlank d = false :=
    Hex.of_small (P := fun b => isDigit b = true → isBlank b = false) (by decide +kernel) d hdigit
  rw [hd]
  exact skipBlanks_cons hblank (ds ++ rest)

theorem readWord_digits {bits : Nat} (hbits : bits ≤ 64) (w : Word bits) {rest : Bytes}
    (h : Stops rest) : readWord bits (Decimal.digits w.val ++ rest) = .ok (w, rest) := by
  obtain ⟨d, ds, hd, hdigit, -⟩ := digits_eq_cons w.val
  have hfit : w.val < Nat.pow 2 64 :=
    Nat.lt_of_lt_of_le w.isLt (Nat.pow_le_pow_right (by decide) hbits)
  have hblank := skipBlanks_digits w.val rest
  have hread := readNumber_digits w.val hfit h
  rw [hd, List.cons_append] at hblank hread ⊢
  unfold readWord
  simp only [hblank, hdigit, if_true, hread, Word.ofNat?_val]

/-! ## Kinds -/

/-- the kinds whose values are read back; a number that is no amount has at most 64 bits -/
def Kind.Fits : Kind → Prop
  | .word bits => bits ≤ 64
  | _ => True

/-- what has been written as a value of a kind is read as that value -/
theorem Kind.read_write (kind : Kind) (hk : kind.Fits) (v : kind.Value) {rest : Bytes}
    (h : Stops rest) : kind.read (kind.write v ++ rest) = .ok (v, rest) := by
  cases kind with
  | word bits => exact readWord_digits hk v h
  | amount =>
    show readAmount (skipBlanks (Decimal.digits v.val ++ rest)) = _
    rw [skipBlanks_digits]
    exact readAmount_digits v h
  | account => exact readSpelled_written (Account.ofText_encode v) rest
  | octets =>
    refine readSpelled_written ?_ rest
    rw [Hex.dropMarks_encode, Hex.decode_encode]
  | text =>
    simp only [Kind.read, Kind.write, readQuoted_written, Bytes.toString?_ofString]

/-! ## Skipping -/

theorem skipValue_scalar {b : UInt8} {tail rest : Bytes} (hblank : isBlank b = false)
    (hlist : b ≠ openBracket) (hobject : b ≠ openBrace)
    (h : skipScalar b tail = .ok rest) : skipValue (b :: tail) = .ok rest := by
  unfold skipValue
  rw [List.length_cons, Nat.mul_succ]
  rw [skipNested, skipBlanks_cons hblank]
  simp only [if_neg hlist, if_neg hobject, h]
  rw [skipNested]

theorem skipValue_quoted (bytes rest : Bytes) :
    skipValue (writeQuoted bytes ++ rest) = .ok rest := by
  rw [writeQuoted_append]
  refine skipValue_scalar (by decide) (by decide) (by decide) ?_
  exact skipChars_escaped bytes rest

theorem skipValue_digits (n : Nat) {rest : Bytes} (h : Stops rest) :
    skipValue (Decimal.digits n ++ rest) = .ok rest := by
  obtain ⟨d, ds, hd, hdigit, -⟩ := digits_eq_cons n
  have hskip := skipNumber_digits n h
  have hb : isBlank d = false ∧ d ≠ openBracket ∧ d ≠ openBrace ∧ d ≠ 110 ∧ d ≠ 116 ∧ d ≠ 102 ∧
      d ≠ minus :=
    Hex.of_small (P := fun b => isDigit b = true → isBlank b = false ∧ b ≠ openBracket ∧
      b ≠ openBrace ∧ b ≠ 110 ∧ b ≠ 116 ∧ b ≠ 102 ∧ b ≠ minus) (by decide +kernel) d hdigit
  obtain ⟨hblank, hlist, hobject, hn, ht, hf, hminus⟩ := hb
  rw [hd, List.cons_append] at hskip ⊢
  refine skipValue_scalar hblank hlist hobject ?_
  unfold skipScalar
  rw [if_neg hn, if_neg ht, if_neg hf, if_neg hminus, if_pos hdigit]
  exact hskip

theorem skipValue_write (kind : Kind) (v : kind.Value) {rest : Bytes} (h : Stops rest) :
    skipValue (kind.write v ++ rest) = .ok rest := by
  cases kind with
  | word bits => exact skipValue_digits v.val h
  | amount => exact skipValue_digits v.val h
  | account => exact skipValue_quoted (Hex.encode v.bytes) rest
  | octets => exact skipValue_quoted (Hex.encode v) rest
  | text => exact skipValue_quoted (Bytes.ofString v) rest

end PayChannel.Json
