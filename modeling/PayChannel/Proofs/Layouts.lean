import Mathlib
import PayChannel.Voucher

/-!
# Layouts of what is signed

Nothing in a signed message says where one part of it ends and the next one begins; the widths of the
parts do.  A layout in so many bytes pairs each value with one string of that length, and leaves none of
these strings over; two layouts, one behind the other, are a layout again.  A voucher's message is made
of four.  A request's message is a time and then anything at all, which is its body.

* `getElem?_littleEndian`, `getElem?_bigEndian`    which byte of a number stands at which place;
* `Layout`, `Layout.append`    layouts, and one behind another;
* `isSome_read?_iff`, `read?_eq_some_iff`    what is read, and what it is read as;
* `VoucherTerms.layout`, `message_eq_iff`    the message of a voucher, as a whole and byte by byte;
* `SignedOver`, `eq_of_signedOver`    what a signature is made over, whatever the scheme;
* `layouts_unambiguous`    no two vouchers and no two requests share what is signed.
-/

set_option linter.unusedSectionVars false

namespace PayChannel

/-! ## The bytes of a number -/

namespace Bytes

theorem getElem?_littleEndian {width i : Nat} (n : Nat) (h : i < width) :
    (littleEndian width n)[i]? = some (UInt8.ofNat (n / 256 ^ i)) := by
  induction width generalizing n i with
  | zero => exact absurd h (Nat.not_lt_zero i)
  | succ width ih =>
    rw [littleEndian]
    cases i with
    | zero => rw [List.getElem?_cons_zero, pow_zero, Nat.div_one]
    | succ i =>
      rw [List.getElem?_cons_succ, ih (n / 256) (Nat.lt_of_succ_lt_succ h),
        Nat.div_div_eq_div_mul, pow_succ']

theorem getElem?_bigEndian {width i : Nat} (n : Nat) (h : i < width) :
    (bigEndian width n)[i]? = some (UInt8.ofNat (n / 256 ^ (width - 1 - i))) := by
  have hi : i < (littleEndian width n).length := by rwa [length_littleEndian]
  rw [bigEndian, List.getElem?_reverse hi, length_littleEndian, getElem?_littleEndian n (by omega)]

theorem pow_width (width : Nat) : Nat.pow 256 width = Nat.pow 2 (8 * width) :=
  (Nat.pow_mul 2 8 width).symm

theorem ofLittleEndian_lt_of_length {width : Nat} {bytes : Bytes} (h : bytes.length = width) :
    ofLittleEndian bytes < Nat.pow 2 (8 * width) := by
  rw [← pow_width, ← h]
  exact ofLittleEndian_lt bytes

theorem getElem?_part {front part : Bytes} (back : Bytes) {start i : Nat}
    (hfront : front.length = start) (h : i < part.length) :
    (front ++ part ++ back)[start + i]? = part[i]? := by
  rw [List.append_assoc, List.getElem?_append_right (by omega), List.getElem?_append_left (by omega)]
  congr 1
  omega

end Bytes

/-! ## Layouts -/

/-- a way to write values in `width` bytes that leaves no string of so many bytes over -/
abbrev Layout (α : Type) (width : Nat) := α ≃ {bytes : Bytes // bytes.length = width}

namespace Layout
section
variable {α β : Type} {m n width : Nat}

def write (L : Layout α width) (a : α) : Bytes :=
  (L a).val

/-- the value that has these bytes; strings of any other length are refused -/
def read? (L : Layout α width) (bytes : Bytes) : Option α :=
  if h : bytes.length = width then some (L.symm ⟨bytes, h⟩) else none

theorem length_write (L : Layout α width) (a : α) : (L.write a).length = width :=
  (L a).property

theorem write_symm (L : Layout α width) (s : {bytes : Bytes // bytes.length = width}) :
    L.write (L.symm s) = s.val :=
  congrArg Subtype.val (L.apply_symm_apply s)

theorem write_injective (L : Layout α width) : Function.Injective L.write :=
  Subtype.val_injective.comp L.injective

theorem isSome_read?_iff (L : Layout α width) (bytes : Bytes) :
    (L.read? bytes).isSome ↔ bytes.length = width := by
  unfold read?
  split
  · rename_i h
    exact iff_of_true rfl h
  · rename_i h
    exact iff_of_false Bool.false_ne_true h

theorem read?_eq_some_iff (L : Layout α width) (bytes : Bytes) (a : α) :
    L.read? bytes = some a ↔ L.write a = bytes := by
  constructor
  · intro h
    unfold read? at h
    split at h
    · obtain rfl := Option.some.inj h
      exact L.write_symm _
    · cases h
  · rintro rfl
    rw [read?, dif_pos (L.length_write a)]
    exact congrArg some (L.symm_apply_apply a)

theorem existsUnique_write (L : Layout α width) {bytes : Bytes} (h : bytes.length = width) :
    ∃! a, L.write a = bytes := by
  have hread := L.write_symm ⟨bytes, h⟩
  exact ⟨L.symm ⟨bytes, h⟩, hread, fun a ha => L.write_injective (ha.trans hread.symm)⟩

theorem length_write_append (L : Layout α m) (R : Layout β n) (p : α × β) :
    (L.write p.1 ++ R.write p.2).length = m + n := by
  rw [List.length_append, L.length_write, R.length_write]

theorem length_front {bytes : Bytes} (h : bytes.length = m + n) : (bytes.take m).length = m := by
  rw [List.length_take, h, Nat.min_eq_left (Nat.le_add_right m n)]

theorem length_back {bytes : Bytes} (h : bytes.length = m + n) : (bytes.drop m).length = n := by
  rw [List.length_drop, h, Nat.add_sub_cancel_left]

theorem length_reverse_of {bytes : Bytes} (h : bytes.length = width) :
    bytes.reverse.length = width := by
  rw [List.length_reverse, h]

def append (L : Layout α m) (R : Layout β n) : Layout (α × β) (m + n) where
  toFun p := ⟨L.write p.1 ++ R.write p.2, L.length_write_append R p⟩
  invFun s := (L.symm ⟨s.val.take m, length_front s.property⟩,
    R.symm ⟨s.val.drop m, length_back s.property⟩)
  left_inv p := by
    have hfront : (L.write p.1 ++ R.write p.2).take m = L.write p.1 :=
      List.take_left' (L.length_write p.1)
    have hback : (L.write p.1 ++ R.write p.2).drop m = R.write p.2 :=
      List.drop_left' (L.length_write p.1)
    exact Prod.ext (L.symm_apply_eq.mpr (Subtype.ext hfront)) (R.symm_apply_eq.mpr (Subtype.ext hback))
  right_inv s := by
    have hfront := L.write_symm ⟨s.val.take m, length_front s.property⟩
    have hback := R.write_symm ⟨s.val.drop m, length_back s.property⟩
    exact Subtype.ext ((congrArg₂ List.append hfront hback).trans (List.take_append_drop m s.val))

def reversed (L : Layout α width) : Layout α width where
  toFun a := ⟨(L.write a).reverse, length_reverse_of (L.length_write a)⟩
  invFun s := L.symm ⟨s.val.reverse, length_reverse_of s.property⟩
  left_inv _ := L.symm_apply_eq.mpr (Subtype.ext (List.reverse_reverse _))
  right_inv s := by
    have hread := L.write_symm ⟨s.val.reverse, length_reverse_of s.property⟩
    exact Subtype.ext ((congrArg List.reverse hread).trans (List.reverse_reverse s.val))

def account : Layout Account 32 where
  toFun a := ⟨a.bytes, a.length_eq⟩
  invFun s := ⟨s.val, s.property⟩
  left_inv _ := rfl
  right_inv _ := rfl

def littleEndian (width : Nat) : Layout (Word (8 * width)) width where
  toFun a := ⟨Bytes.littleEndian width a.val, Bytes.length_littleEndian width a.val⟩
  invFun s := ⟨Bytes.ofLittleEndian s.val, Bytes.ofLittleEndian_lt_of_length s.property⟩
  left_inv a := by
    apply Word.ext
    exact Bytes.ofLittleEndian_littleEndian width a.val (Bytes.pow_width width ▸ a.isLt)
  right_inv s := by
    have hback := Bytes.littleEndian_ofLittleEndian s.val
    rw [s.property] at hback
    exact Subtype.ext hback

def bigEndian (width : Nat) : Layout (Word (8 * width)) width :=
  (littleEndian width).reversed

end
end Layout

/-! ## Vouchers -/

/-- what a voucher says, less who says it: whom it pays, in which generation of the channel and which
session, and how much -/
@[ext]
structure VoucherTerms where
  receiver : Account
  nonce : Nonce
  sessionId : SessionId
  amount : Amount
deriving DecidableEq

namespace VoucherTerms

def message (terms : VoucherTerms) : Bytes :=
  voucherMessage terms.receiver terms.nonce terms.sessionId terms.amount

def digest (terms : VoucherTerms) : Bytes :=
  voucherDigest terms.receiver terms.nonce terms.sessionId terms.amount

def signature (terms : VoucherTerms) (S : SignatureScheme) (secret : Secret) : Bytes :=
  S.signVoucher secret terms.receiver terms.nonce terms.sessionId terms.amount

def parts : VoucherTerms ≃ Account × Nonce × SessionId × Amount where
  toFun terms := (terms.receiver, terms.nonce, terms.sessionId, terms.amount)
  invFun p := ⟨p.1, p.2.1, p.2.2.1, p.2.2.2⟩
  left_inv _ := rfl
  right_inv _ := rfl

def layout : Layout VoucherTerms 60 :=
  parts.trans
    (Layout.account.append
      ((Layout.bigEndian 8).append ((Layout.bigEndian 4).append (Layout.littleEndian 16))))

theorem write_layout (terms : VoucherTerms) : layout.write terms = terms.message := by
  unfold message voucherMessage
  rw [List.append_assoc, List.append_assoc]
  rfl

theorem message_injective : Function.Injective message := by
  intro v w h
  rw [← write_layout, ← write_layout] at h
  exact layout.write_injective h

/-- what stands at which place of a message of 60 bytes: the receiver, then the nonce and the session
with their highest bytes first, then the amount with its lowest byte first -/
structure SpelledBy (terms : VoucherTerms) (message : Bytes) : Prop where
  length : message.length = 60
  receiver : ∀ i < 32, message[i]? = terms.receiver.bytes[i]?
  nonce : ∀ i < 8, message[32 + i]? = some (UInt8.ofNat (terms.nonce.val / 256 ^ (7 - i)))
  sessionId : ∀ i < 4, message[40 + i]? = some (UInt8.ofNat (terms.sessionId.val / 256 ^ (3 - i)))
  amount : ∀ i < 16, message[44 + i]? = some (UInt8.ofNat (terms.amount.val / 256 ^ i))

theorem spelledBy_message (terms : VoucherTerms) : terms.SpelledBy terms.message := by
  have hreceiver : terms.receiver.bytes.length = 32 := terms.receiver.length_eq
  have hnonce : (Bytes.bigEndian 8 terms.nonce.val).length = 8 := Bytes.length_bigEndian _ _
  have hsession : (Bytes.bigEndian 4 terms.sessionId.val).length = 4 := Bytes.length_bigEndian _ _
  have hamount : (Bytes.littleEndian 16 terms.amount.val).length = 16 := Bytes.length_littleEndian _ _
  unfold message voucherMessage
  constructor
  case length => exact length_voucherMessage _ _ _ _
  case receiver =>
    intro i hi
    rw [List.append_assoc, List.append_assoc, List.getElem?_append_left (by omega)]
  case nonce =>
    intro i hi
    rw [List.append_assoc, Bytes.getElem?_part _ hreceiver (by omega), Bytes.getElem?_bigEndian _ hi]
  case sessionId =>
    intro i hi
    have hfront : (terms.receiver.bytes ++ Bytes.bigEndian 8 terms.nonce.val).length = 40 := by
      rw [List.length_append, hreceiver, hnonce]
    rw [Bytes.getElem?_part _ hfront (by omega), Bytes.getElem?_bigEndian _ hi]
  case amount =>
    intro i hi
    have hfront : (terms.receiver.bytes ++ Bytes.bigEndian 8 terms.nonce.val
        ++ Bytes.bigEndian 4 terms.sessionId.val).length = 44 := by
      rw [List.length_append, List.length_append, hreceiver, hnonce, hsession]
    rw [← List.append_nil (_ ++ Bytes.littleEndian 16 _), Bytes.getElem?_part _ hfront (by omega),
      Bytes.getElem?_littleEndian _ hi]

theorem SpelledBy.unique {terms : VoucherTerms} {m m' : Bytes} (h : terms.SpelledBy m)
    (h' : terms.SpelledBy m') : m = m' := by
  apply List.ext_getElem?
  intro i
  rcases Nat.lt_or_ge i 32 with hlt | h32
  · rw [h.receiver i hlt, h'.receiver i hlt]
  rcases Nat.lt_or_ge i 40 with hlt | h40
  · obtain ⟨j, rfl⟩ := Nat.exists_eq_add_of_le h32
    rw [h.nonce j (by omega), h'.nonce j (by omega)]
  rcases Nat.lt_or_ge i 44 with hlt | h44
  · obtain ⟨j, rfl⟩ := Nat.exists_eq_add_of_le h40
    rw [h.sessionId j (by omega), h'.sessionId j (by omega)]
  rcases Nat.lt_or_ge i 60 with hlt | h60
  · obtain ⟨j, rfl⟩ := Nat.exists_eq_add_of_le h44
    rw [h.amount j (by omega), h'.amount j (by omega)]
  · rw [List.getElem?_eq_none (h.length.trans_le h60), List.getElem?_eq_none (h'.length.trans_le h60)]

theorem message_eq_iff (terms : VoucherTerms) (message : Bytes) :
    terms.message = message ↔ terms.SpelledBy message := by
  constructor
  · rintro rfl
    exact terms.spelledBy_message
  · exact terms.spelledBy_message.unique

end VoucherTerms

/-! ## What is signed -/

def Blake2b.Collision (a b : Bytes) : Prop := a ≠ b ∧ digest a = digest b

/-- different vouchers have different digests, or there is a collision -/
theorem VoucherTerms.eq_or_collision {v w : VoucherTerms} (h : v.digest = w.digest) :
    v = w ∨ Blake2b.Collision v.message w.message := by
  by_cases hmessage : v.message = w.message
  · exact .inl (message_injective hmessage)
  · exact .inr ⟨hmessage, h⟩

/-- a signature is made over a message if every scheme makes it so, under every secret -/
def SignedOver (signature : SignatureScheme → Secret → Bytes) (message : Bytes) : Prop :=
  ∀ S secret, signature S secret = S.sign secret message

/-- the scheme whose signatures tell one message from all others, and nothing else -/
def SignatureScheme.telling (message : Bytes) : SignatureScheme where
  account secret := ⟨secret.bytes, secret.length_eq⟩
  sign _ m := List.replicate 64 (if m = message then 1 else 0)
  verify _ m signature := signature == List.replicate 64 (if m = message then 1 else 0)
  length_sign _ _ := List.length_replicate

theorem eq_of_signedOver {signature : SignatureScheme → Secret → Bytes} {m m' : Bytes}
    (h : SignedOver signature m) (h' : SignedOver signature m') : m = m' := by
  let secret : Secret := ⟨List.replicate 32 0, List.length_replicate⟩
  have hsame : List.replicate 64 (if m = m' then (1 : UInt8) else 0)
      = List.replicate 64 (if m' = m' then 1 else 0) :=
    (h (.telling m') secret).symm.trans (h' (.telling m') secret)
  by_contra hne
  rw [if_neg hne, if_pos rfl] at hsame
  exact absurd hsame (by decide)

theorem VoucherTerms.signedOver (terms : VoucherTerms) : SignedOver terms.signature terms.digest :=
  fun _ _ => rfl

theorem signedOver_request (time : Millis) (body : Bytes) :
    SignedOver (fun S secret => S.signRequest secret time body) (requestMessage time body) :=
  fun _ _ => rfl

/-- what is signed can be read in one way only.  Exactly the strings of 60 bytes are read as vouchers;
each is the message of one voucher, which is read from it, and whose receiver, nonce, session and amount
stand in it byte by byte.  The message of a request determines its time and its body.  So different
vouchers are signed over different messages, unless their own messages have the same digest, and
different requests are signed over different messages in any case. -/
theorem layouts_unambiguous :
    (∀ message, (VoucherTerms.layout.read? message).isSome ↔ message.length = 60) ∧
    (∀ receiver nonce sessionId amount,
      VoucherTerms.layout.read? (voucherMessage receiver nonce sessionId amount)
        = some ⟨receiver, nonce, sessionId, amount⟩) ∧
    (∀ message : Bytes, message.length = 60 → ∃! terms : VoucherTerms, terms.message = message) ∧
    (∀ (terms : VoucherTerms) message, terms.message = message ↔ terms.SpelledBy message) ∧
    (∀ t1 t2 b1 b2, requestMessage t1 b1 = requestMessage t2 b2 → t1 = t2 ∧ b1 = b2) ∧
    (∀ (v w : VoucherTerms) message, SignedOver v.signature message →
      SignedOver w.signature message → v = w ∨ Blake2b.Collision v.message w.message) ∧
    ∀ t1 t2 b1 b2 message, SignedOver (fun S secret => S.signRequest secret t1 b1) message →
      SignedOver (fun S secret => S.signRequest secret t2 b2) message → t1 = t2 ∧ b1 = b2 := by
  refine ⟨VoucherTerms.layout.isSome_read?_iff, ?_, ?_, VoucherTerms.message_eq_iff, ?_, ?_, ?_⟩
  · intro receiver nonce sessionId amount
    rw [VoucherTerms.layout.read?_eq_some_iff, VoucherTerms.write_layout]
    rfl
  · intro message hlength
    have hunique := VoucherTerms.layout.existsUnique_write hlength
    simpa only [VoucherTerms.write_layout] using hunique
  · intro t1 t2 b1 b2 h
    exact requestMessage_inj h
  · intro v w message hv hw
    apply VoucherTerms.eq_or_collision
    exact (eq_of_signedOver v.signedOver hv).trans (eq_of_signedOver hw w.signedOver)
  · intro t1 t2 b1 b2 message h1 h2
    apply requestMessage_inj
    exact (eq_of_signedOver (signedOver_request t1 b1) h1).trans
      (eq_of_signedOver h2 (signedOver_request t2 b2))

/-- the bytes from 0 to 59 are the message of one voucher, and no other is signed over its digest, or
there is a collision.  They are the message of a request, too, and of one only. -/
theorem layouts_unambiguous_counting :
    let message : Bytes := (List.range 60).map UInt8.ofNat
    let v : VoucherTerms := ⟨⟨(List.range 32).map UInt8.ofNat, by decide⟩,
      ⟨0x2021222324252627, by decide⟩, ⟨0x28292a2b, by decide⟩,
      ⟨0x3b3a393837363534333231302f2e2d2c, by decide⟩⟩
    let time : Millis := ⟨0x0001020304050607, by decide⟩
    let body : Bytes := message.drop 8
    VoucherTerms.layout.read? message = some v ∧ (∃! terms : VoucherTerms, terms.message = message) ∧
      (SignedOver v.signature v.digest ∧
        ∀ w : VoucherTerms, SignedOver w.signature v.digest →
          w = v ∨ Blake2b.Collision w.message v.message) ∧
      (requestMessage time body = message ∧
        ∀ t b, requestMessage t b = message → t = time ∧ b = body) ∧
      SignedOver (fun S secret => S.signRequest secret time body) message ∧
        ∀ t b, SignedOver (fun S secret => S.signRequest secret t b) message →
          t = time ∧ b = body := by
  intro message v time body
  obtain ⟨-, hread, hunique, -, hrequest, hvouchers, hrequests⟩ := layouts_unambiguous
  have hmessage : v.message = message := by decide
  have hposted : requestMessage time body = message := by decide
  have hsigned : SignedOver (fun S secret => S.signRequest secret time body) message :=
    hposted ▸ signedOver_request time body
  refine ⟨?_, hunique message (by decide), ⟨v.signedOver, fun w hw => ?_⟩, ⟨hposted, fun t b h => ?_⟩,
    hsigned, fun t b h => ?_⟩
  · rw [← hmessage]
    exact hread v.receiver v.nonce v.sessionId v.amount
  · exact hvouchers w v v.digest hw v.signedOver
  · exact hrequest t time b body (h.trans hposted.symm)
  · exact hrequests t time b body message h hsigned

end PayChannel
