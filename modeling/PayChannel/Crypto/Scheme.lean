import PayChannel.Account
import PayChannel.Crypto.Ed25519

/-!
# Signature schemes

What the rest of the library needs of signatures: an account for every secret, signatures of 64
bytes, and a test.  Whether the test accepts what was signed is a property (`Sound`) of a scheme
and not part of it, so that a result says where it relies on it.

* `ed25519`    the scheme in use.
-/

namespace PayChannel

/-- a way to sign byte strings -/
structure SignatureScheme where
  account : Secret → Account
  sign : Secret → Bytes → Bytes
  verify : Account → Bytes → Bytes → Bool
  length_sign : ∀ secret message, (sign secret message).length = 64

/-- the test of the scheme accepts every signature made under the account's own secret -/
def SignatureScheme.Sound (S : SignatureScheme) : Prop :=
  ∀ secret message, S.verify (S.account secret) message (S.sign secret message) = true

def ed25519 : SignatureScheme where
  account secret := ⟨Ed25519.publicKey secret.bytes, Ed25519.length_publicKey secret.bytes⟩
  sign secret message := Ed25519.sign secret.bytes message
  verify account message signature := Ed25519.verify account.bytes message signature
  length_sign secret message := Ed25519.length_sign secret.bytes message

end PayChannel
