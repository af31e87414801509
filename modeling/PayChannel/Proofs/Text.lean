import Mathlib
import PayChannel.Ascii
import PayChannel.Hex

/-!
# The bytes of a text

A text and its bytes in UTF-8 determine each other, and characters below 128 are the bytes of the
same number.

* `ofString_ofList`, `ofString_append`    the bytes of a text, character by character;
* `toString?_ofString`    the bytes of a text spell it;
* `ofString_text`, `ofString_hexText`    texts made of single bytes.
-/

set_option linter.unusedSectionVars false

namespace PayChannel.Bytes

theorem toList_loop (b : ByteArray) (i : Nat) (acc : List UInt8) :
    ByteArray.toList.loop b i acc = acc.reverse ++ b.data.toList.drop i := by
  fun_induction ByteArray.toList.loop b i acc with
  | case1 i acc hi ih =>
    have hlen : i < b.data.toList.length := by
      rw [Array.length_toList]
      exact hi
    have hget : b.get! i = b.data.toList[i] := by
      obtain ⟨a⟩ := b
      show a[i]! = a.toList[i]
      rw [getElem!_pos a i hi, Array.getElem_toList]
    rw [ih, List.reverse_cons, List.append_assoc, List.singleton_append, hget,
      ← List.drop_eq_getElem_cons hlen]
  | case2 i acc hi =>
    have hlen : b.data.toList.length ≤ i := by
      rw [Array.length_toList]
      exact Nat.le_of_not_lt hi
    rw [List.drop_eq_nil_of_le hlen, List.append_nil]

theorem toList_eq (b : ByteArray) : b.toList = b.data.toList := by
  have h := toList_loop b 0 []
  rw [List.reverse_nil, List.nil_append, List.drop_zero] at h
  exact h

theorem ofString_eq (s : String) : ofString s = s.toByteArray.data.toList := by
  unfold ofString
  rw [String.toUTF8_eq_toByteArray, toList_eq]

theorem ofString_ofList (cs : List Char) :
    ofString (String.ofList cs) = cs.flatMap String.utf8EncodeChar := by
  rw [ofString_eq, String.toByteArray_ofList, List.utf8Encode, List.toList_data_toByteArray]

theorem ofString_append (s t : String) : ofString (s ++ t) = ofString s ++ ofString t := by
  rw [ofString_eq, ofString_eq, ofString_eq, String.toByteArray_append, ByteArray.data_append,
    Array.toList_append]

theorem toString?_ofString (s : String) : toString? (ofString s) = some s := by
  have harr : ByteArray.mk (ofString s).toArray = s.toByteArray := by
    rw [ofString_eq]
  unfold toString?
  rw [harr, String.fromUTF8?, dif_pos s.isValidUTF8]
  rfl

theorem utf8EncodeChar_ofNat (b : UInt8) (h : b < 128) :
    String.utf8EncodeChar (Char.ofNat b.toNat) = [b] :=
  Hex.of_small (P := fun b => b < 128 → String.utf8EncodeChar (Char.ofNat b.toNat) = [b])
    (by decide +kernel) b h

theorem ofString_text (bytes : Bytes) (h : ∀ b ∈ bytes, b < 128) :
    ofString (Ascii.text bytes) = bytes := by
  unfold Ascii.text
  rw [ofString_ofList]
  induction bytes with
  | nil => rfl
  | cons b rest ih =>
    rw [List.map_cons, List.flatMap_cons, utf8EncodeChar_ofNat b (h b List.mem_cons_self),
      ih fun c hc => h c (List.mem_cons_of_mem _ hc)]
    rfl

theorem hexDigit_lt (b : UInt8) : Hex.digit (b >>> 4) < 128 ∧ Hex.digit (b &&& 15) < 128 :=
  Hex.of_small (P := fun b => Hex.digit (b >>> 4) < 128 ∧ Hex.digit (b &&& 15) < 128)
    (by decide +kernel) b

theorem ofString_hexText (bytes : Bytes) : ofString (Hex.text bytes) = Hex.encode bytes := by
  apply ofString_text
  intro b hb
  obtain ⟨c, -, hc⟩ := List.mem_flatMap.mp hb
  obtain ⟨hhigh, hlow⟩ := hexDigit_lt c
  rcases List.mem_pair.mp hc with rfl | rfl
  · exact hhigh
  · exact hlow

end PayChannel.Bytes
