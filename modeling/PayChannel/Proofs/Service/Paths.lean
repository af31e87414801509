import Mathlib
import PayChannel.Client.Calls
import PayChannel.Proofs.Text

/-!
# The paths of reads

The paths that a client reads consist of fixed names and of accounts as hexadecimal digits.  None of
their bytes means anything in a path, so the service finds in them the pieces that the client put
together, and in a piece with an account that account.

* `IsPlain`, `isPlain_encode`    bytes that stand for themselves in a path;
* `segments_append`, `unescape_of_plain`    pieces of such bytes;
* `account?_encode`    the account that a piece names;
* `ofPath?_health` and its like    the route of each path.
-/

set_option linter.unusedSectionVars false

namespace PayChannel

open Ascii

/-! ## Pieces -/

namespace Http

/-- a byte is a visible character that stands for itself in a path -/
structure IsPlain (b : UInt8) : Prop where
  low : 32 ≤ b
  high : b < 127
  ne_slash : b ≠ slash
  ne_percent : b ≠ percent
  inside : endsPath b = false

instance (b : UInt8) : Decidable (IsPlain b) :=
  decidable_of_iff (32 ≤ b ∧ b < 127 ∧ b ≠ slash ∧ b ≠ percent ∧ endsPath b = false)
    ⟨fun ⟨low, high, hslash, hpercent, inside⟩ => ⟨low, high, hslash, hpercent, inside⟩,
      fun h => ⟨h.low, h.high, h.ne_slash, h.ne_percent, h.inside⟩⟩

theorem isPlain_of_digit? {b n : UInt8} (h : Hex.digit? b = some n) : IsPlain b := by
  have hsome : (Hex.digit? b).isSome = true := by
    rw [h]
    rfl
  exact Hex.of_small (P := fun b => (Hex.digit? b).isSome = true → IsPlain b) (by decide +kernel)
    b hsome

theorem isPlain_encode {bytes : Bytes} : ∀ b ∈ Hex.encode bytes, IsPlain b := by
  intro b hb
  obtain ⟨c, -, hc⟩ := List.mem_flatMap.mp hb
  rcases List.mem_pair.mp hc with rfl | rfl
  · exact isPlain_of_digit? (Hex.digit?_digit_high c)
  · exact isPlain_of_digit? (Hex.digit?_digit_low c)

theorem isPlain_digits {n : Nat} : ∀ b ∈ Decimal.digits n, IsPlain b := by
  intro b hb
  have hdigit := Decimal.isDigit_of_mem_digits n b hb
  unfold isDigit at hdigit
  rw [Bool.and_eq_true, decide_eq_true_iff, decide_eq_true_iff] at hdigit
  exact isPlain_of_digit? (n := b - 48) (if_pos hdigit)

theorem isVisible_of_plain {value : Bytes} (h : ∀ b ∈ value, IsPlain b) :
    isVisible value = true := by
  unfold isVisible
  rw [List.all_eq_true]
  intro b hb
  rw [decide_eq_true (h b hb).low, decide_eq_true (h b hb).high]
  rfl

theorem segments_ne_nil (path : Bytes) : segments path ≠ [] := by
  cases path with
  | nil => exact List.cons_ne_nil _ _
  | cons b rest =>
    rw [segments]
    split
    · exact List.cons_ne_nil _ _
    · split <;> exact List.cons_ne_nil _ _

theorem segments_slash (rest : Bytes) : segments (slash :: rest) = [] :: segments rest := by
  rw [segments]
  split
  · rename_i hnil
    exact absurd hnil (segments_ne_nil rest)
  · rename_i hsegments
    rw [if_pos rfl, hsegments]

theorem segments_cons {b : UInt8} (hb : b ≠ slash) {rest piece : Bytes} {pieces : List Bytes}
    (h : segments rest = piece :: pieces) : segments (b :: rest) = (b :: piece) :: pieces := by
  rw [segments, h]
  exact if_neg hb

theorem segments_append {piece : Bytes} (hpiece : ∀ b ∈ piece, b ≠ slash) (rest : Bytes) :
    segments (piece ++ slash :: rest) = piece :: segments rest := by
  induction piece with
  | nil => exact segments_slash rest
  | cons b piece ih =>
    have hrest := ih fun c hc => hpiece c (List.mem_cons_of_mem _ hc)
    exact segments_cons (hpiece b List.mem_cons_self) hrest

theorem segments_last {piece : Bytes} (hpiece : ∀ b ∈ piece, b ≠ slash) :
    segments piece = [piece] := by
  induction piece with
  | nil => rfl
  | cons b piece ih =>
    have hrest := ih fun c hc => hpiece c (List.mem_cons_of_mem _ hc)
    exact segments_cons (hpiece b List.mem_cons_self) hrest

theorem unescape_cons {b : UInt8} (hb : b ≠ percent) (rest : Bytes) :
    unescape (b :: rest) = b :: unescape rest := by
  match rest with
  | [] => rfl
  | [_] => rfl
  | _ :: _ :: _ => rw [unescape, if_neg hb]

theorem unescape_of_plain {bytes : Bytes} (h : ∀ b ∈ bytes, b ≠ percent) :
    unescape bytes = bytes := by
  induction bytes with
  | nil => rfl
  | cons b rest ih =>
    rw [unescape_cons (h b List.mem_cons_self), ih fun c hc => h c (List.mem_cons_of_mem _ hc)]

theorem path_slash {rest : Bytes} (h : ∀ b ∈ rest, endsPath b = false) :
    path (slash :: rest) = slash :: rest := by
  have hscheme : (slash :: rest).dropWhile isScheme = slash :: rest := rfl
  have hafter : afterScheme? (slash :: rest) = none := by
    unfold afterScheme?
    rw [hscheme]
    match rest with
    | [] => rfl
    | [_] => rfl
    | _ :: _ :: _ => exact if_neg fun hcolon => absurd hcolon.1 (by decide)
  unfold path
  rw [hafter]
  refine List.takeWhile_eq_self_iff.mpr fun b hb => ?_
  rcases List.mem_cons.mp hb with rfl | hb
  · rfl
  · rw [h b hb]
    rfl

def join (pieces : List Bytes) : Bytes :=
  pieces.flatMap fun piece => slash :: piece

theorem join_cons (piece : Bytes) (pieces : List Bytes) :
    join (piece :: pieces) = slash :: (piece ++ join pieces) := rfl

theorem segments_append_join {piece : Bytes} {pieces : List Bytes}
    (h : ∀ p ∈ piece :: pieces, ∀ b ∈ p, b ≠ slash) :
    segments (piece ++ join pieces) = piece :: pieces := by
  induction pieces generalizing piece with
  | nil =>
    show segments (piece ++ []) = [piece]
    rw [List.append_nil]
    exact segments_last (h piece List.mem_cons_self)
  | cons next pieces ih =>
    rw [join_cons, segments_append (h piece List.mem_cons_self),
      ih fun p hp => h p (List.mem_cons_of_mem _ hp)]

theorem segments_path_join {pieces : List Bytes} (h : ∀ p ∈ pieces, ∀ b ∈ p, IsPlain b) :
    segments (path (join pieces)) = [] :: pieces := by
  cases pieces with
  | nil => rfl
  | cons piece pieces =>
    have hends : ∀ b ∈ piece ++ join pieces, endsPath b = false := by
      intro b hb
      rcases List.mem_append.mp hb with hb | hb
      · exact (h piece List.mem_cons_self b hb).inside
      · obtain ⟨p, hp, hb⟩ := List.mem_flatMap.mp hb
        rcases List.mem_cons.mp hb with rfl | hb
        · rfl
        · exact (h p (List.mem_cons_of_mem _ hp) b hb).inside
    rw [join_cons, path_slash hends, segments_slash,
      segments_append_join fun p hp b hb => (h p hp b hb).ne_slash]

end Http

/-! ## Routes -/

namespace Route

open Http

theorem account?_encode (a : Account) : account? (Hex.encode a.bytes) = some a := by
  have htext : Json.isText (Hex.encode a.bytes) = true := by
    rw [← Bytes.ofString_hexText, Json.isText, Bytes.toString?_ofString]
    rfl
  unfold account?
  rw [unescape_of_plain fun b hb => (isPlain_encode b hb).ne_percent]
  dsimp only
  rw [if_pos htext, Account.ofText_encode]
  rfl

theorem isPlain_name {name : String}
    (h : ((Bytes.ofString name).all fun b => decide (IsPlain b)) = true) :
    ∀ b ∈ Bytes.ofString name, IsPlain b :=
  fun b hb => of_decide_eq_true (List.all_eq_true.mp h b hb)

theorem encode_ne_nil (a : Account) : Hex.encode a.bytes ≠ [] := by
  intro hnil
  have hlen := Hex.length_encode a.bytes
  rw [hnil, a.length_eq] at hlen
  cases hlen

theorem ofString_holdingsPath (a : Account) : Bytes.ofString ("/accounts/" ++ a.toHex)
    = join [Bytes.ofString "accounts", Hex.encode a.bytes] := by
  have hname : Bytes.ofString "/accounts/" = slash :: (Bytes.ofString "accounts" ++ [slash]) := by
    cbv
  rw [Bytes.ofString_append, hname, Account.toHex, Bytes.ofString_hexText]
  simp [join]

theorem ofString_channelPath (ends : Ends) : Bytes.ofString (Client.channelPath ends)
    = join [Bytes.ofString "channels", Hex.encode ends.sender.bytes,
      Hex.encode ends.receiver.bytes] := by
  have hname : Bytes.ofString "/channels/" = slash :: (Bytes.ofString "channels" ++ [slash]) := by
    cbv
  have hslash : Bytes.ofString "/" = [slash] := by cbv
  rw [Client.channelPath, Bytes.ofString_append, Bytes.ofString_append, Bytes.ofString_append,
    hname, hslash, Account.toHex, Account.toHex, Bytes.ofString_hexText, Bytes.ofString_hexText]
  simp [join]

theorem ofString_sessionPath (ends : Ends) :
    Bytes.ofString (Client.channelPath ends ++ "/session")
      = join [Bytes.ofString "channels", Hex.encode ends.sender.bytes,
        Hex.encode ends.receiver.bytes, Bytes.ofString "session"] := by
  have hname : Bytes.ofString "/session" = slash :: Bytes.ofString "session" := by cbv
  rw [Bytes.ofString_append, ofString_channelPath, hname]
  simp [join]

theorem ofPath?_holdings (a : Account) :
    ofPath? (path (Bytes.ofString ("/accounts/" ++ a.toHex)))
      = some (.holdings (Hex.encode a.bytes)) := by
  have hplain : ∀ p ∈ [Bytes.ofString "accounts", Hex.encode a.bytes], ∀ b ∈ p, IsPlain b := by
    intro p hp
    rcases List.mem_pair.mp hp with rfl | rfl
    · exact isPlain_name (by cbv)
    · exact isPlain_encode
  have hother : Bytes.ofString "accounts" ≠ Bytes.ofString "channels" := by decide_cbv
  rw [ofString_holdingsPath, ofPath?, segments_path_join hplain]
  simp [hother, encode_ne_nil]

theorem isPlain_channelPieces (ends : Ends) : ∀ p ∈ [Bytes.ofString "channels",
    Hex.encode ends.sender.bytes, Hex.encode ends.receiver.bytes], ∀ b ∈ p, IsPlain b := by
  intro p hp
  rcases List.mem_cons.mp hp with rfl | hp
  · exact isPlain_name (by cbv)
  · rcases List.mem_pair.mp hp with rfl | rfl
    · exact isPlain_encode
    · exact isPlain_encode

theorem ofPath?_channel (ends : Ends) :
    ofPath? (path (Bytes.ofString (Client.channelPath ends)))
      = some (.channel (Hex.encode ends.sender.bytes) (Hex.encode ends.receiver.bytes)) := by
  rw [ofString_channelPath, ofPath?, segments_path_join (isPlain_channelPieces ends)]
  simp [encode_ne_nil]

theorem ofPath?_session (ends : Ends) :
    ofPath? (path (Bytes.ofString (Client.channelPath ends ++ "/session")))
      = some (.session (Hex.encode ends.sender.bytes) (Hex.encode ends.receiver.bytes)) := by
  have hplain : ∀ p ∈ [Bytes.ofString "channels", Hex.encode ends.sender.bytes,
      Hex.encode ends.receiver.bytes, Bytes.ofString "session"], ∀ b ∈ p, IsPlain b := by
    intro p hp
    rcases List.mem_append.mp (show p ∈ [_, _, _] ++ [_] from hp) with hp | hp
    · exact isPlain_channelPieces ends p hp
    · rw [List.mem_singleton.mp hp]
      exact isPlain_name (by cbv)
  rw [ofString_sessionPath, ofPath?, segments_path_join hplain]
  simp

theorem ofPath?_health : ofPath? (path (Bytes.ofString "/health")) = some .health := by
  cbv

theorem ofPath?_statistics : ofPath? (path (Bytes.ofString "/statistics")) = some .statistics := by
  cbv

end Route
end PayChannel
