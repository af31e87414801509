import PayChannel.Channel
import PayChannel.Crypto.Blake2b
import PayChannel.Crypto.Scheme

/-!
# Vouchers and signed messages

A sender pays by signing vouchers.  A voucher's message has a fixed layout: the receiver (32
bytes), the nonce (8, highest byte first), the session (4, highest byte first) and the amount (16,
lowest byte first); what is signed is its digest.  A request is signed over its time (8, highest
byte first) followed by its body.

* `length_voucherMessage`, `length_voucherDigest`    60 bytes and 32 bytes;
* `length_requestMessage`    8 bytes more than the body;
* `requestMessage_inj`    the message of a request determines its time and its body.
-/

namespace PayChannel

def signatureLength : Nat := 64

/-- the bytes that stand for a voucher -/
def voucherMessage (receiver : Account) (nonce : Nonce) (sessionId : SessionId) (amount : Amount) :
    Bytes :=
  receiver.bytes ++ Bytes.bigEndian 8 nonce.val ++ Bytes.bigEndian 4 sessionId.val ++
    Bytes.littleEndian 16 amount.val

def voucherDigest (receiver : Account) (nonce : Nonce) (sessionId : SessionId) (amount : Amount) :
    Bytes :=
  Blake2b.digest (voucherMessage receiver nonce sessionId amount)

/-- the bytes that the signature of a request is made over -/
def requestMessage (time : Millis) (body : Bytes) : Bytes :=
  Bytes.bigEndian 8 time.val ++ body

/-- a sender's promise of an amount; it holds for one receiver and one generation of the channel -/
structure Voucher where
  sessionId : SessionId
  amount : Amount
  signature : Bytes
deriving DecidableEq

namespace SignatureScheme

variable (S : SignatureScheme)

def signVoucher (secret : Secret) (receiver : Account) (nonce : Nonce) (sessionId : SessionId)
    (amount : Amount) : Bytes :=
  S.sign secret (voucherDigest receiver nonce sessionId amount)

def verifyVoucher (sender receiver : Account) (nonce : Nonce) (sessionId : SessionId)
    (amount : Amount) (signature : Bytes) : Bool :=
  S.verify sender (voucherDigest receiver nonce sessionId amount) signature

def voucher (secret : Secret) (receiver : Account) (nonce : Nonce) (sessionId : SessionId)
    (amount : Amount) : Voucher :=
  ⟨sessionId, amount, S.signVoucher secret receiver nonce sessionId amount⟩

def signRequest (secret : Secret) (time : Millis) (body : Bytes) : Bytes :=
  S.sign secret (requestMessage time body)

def verifyRequest (signer : Account) (time : Millis) (body signature : Bytes) : Bool :=
  S.verify signer (requestMessage time body) signature

end SignatureScheme

theorem length_voucherMessage (receiver : Account) (nonce : Nonce) (sessionId : SessionId)
    (amount : Amount) : (voucherMessage receiver nonce sessionId amount).length = 60 := by
  simp only [voucherMessage, List.length_append, receiver.length_eq, Bytes.length_bigEndian,
    Bytes.length_littleEndian]

theorem length_voucherDigest (receiver : Account) (nonce : Nonce) (sessionId : SessionId)
    (amount : Amount) : (voucherDigest receiver nonce sessionId amount).length = 32 :=
  Blake2b.length_digest _

theorem length_requestMessage (time : Millis) (body : Bytes) :
    (requestMessage time body).length = 8 + body.length := by
  rw [requestMessage, List.length_append, Bytes.length_bigEndian]

theorem requestMessage_inj {t1 t2 : Millis} {b1 b2 : Bytes}
    (h : requestMessage t1 b1 = requestMessage t2 b2) : t1 = t2 ∧ b1 = b2 := by
  have hl : (Bytes.bigEndian 8 t1.val).length = (Bytes.bigEndian 8 t2.val).length := by
    rw [Bytes.length_bigEndian, Bytes.length_bigEndian]
  obtain ⟨h1, h2⟩ := List.append_inj h hl
  refine ⟨Word.ext ?_, h2⟩
  rw [← Bytes.ofBigEndian_bigEndian 8 t1.val t1.isLt, h1,
    Bytes.ofBigEndian_bigEndian 8 t2.val t2.isLt]

end PayChannel
