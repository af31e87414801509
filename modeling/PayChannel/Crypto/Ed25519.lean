import PayChannel.Crypto.Sha512
import PayChannel.Crypto.Edwards

/-!
# Ed25519 signatures

A signature is an encoded point followed by a number, 32 bytes each.  It is accepted exactly if
the number is below the order of the base point and the encoding of
`number * base - challenge * key` equals the point bytes; no other encoding of that point passes.

* `length_publicKey`, `length_sign`    a public key has 32 bytes, a signature 64.
-/

namespace PayChannel.Ed25519

open Edwards

def pointBytes (P : Point) : Bytes :=
  Bytes.littleEndian 32 P.encode

/-- the secret number of a seed: the first half of its digest with the three lowest bits and the
highest bit cleared and the second highest set -/
def secretNumber (seed : Bytes) : Nat :=
  let n := Bytes.ofLittleEndian ((Sha512.digest seed).take 32)
  (n % Nat.pow 2 254) / 8 * 8 + Nat.pow 2 254

def publicKey (seed : Bytes) : Bytes :=
  pointBytes (Point.scale (secretNumber seed) Point.base)

def reduced (message : Bytes) : Nat :=
  Bytes.ofLittleEndian (Sha512.digest message) % order

def sign (seed message : Bytes) : Bytes :=
  let nonce := reduced ((Sha512.digest seed).drop 32 ++ message)
  let point := pointBytes (Point.scale nonce Point.base)
  let challenge := reduced (point ++ publicKey seed ++ message)
  point ++ Bytes.littleEndian 32 ((nonce + challenge * secretNumber seed) % order)

def verify (key message signature : Bytes) : Bool :=
  let point := signature.take 32
  let number := Bytes.ofLittleEndian (signature.drop 32)
  if signature.length = 64 ∧ number < order then
    match Point.decode? (Bytes.ofLittleEndian key) with
    | none => false
    | some A =>
      let challenge := reduced (point ++ key ++ message)
      let R := (Point.scale number Point.base).add (Point.scale challenge A.neg)
      decide (pointBytes R = point)
  else false

theorem length_publicKey (seed : Bytes) : (publicKey seed).length = 32 :=
  Bytes.length_littleEndian 32 _

theorem length_sign (seed message : Bytes) : (sign seed message).length = 64 := by
  simp only [sign, pointBytes, List.length_append, Bytes.length_littleEndian]

end PayChannel.Ed25519
