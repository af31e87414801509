import PayChannel.Crypto.Scheme
import PayChannel.Json.Record
import PayChannel.Node.Fault
import PayChannel.Toml.Document
import PayChannel.Toml.Line

/-!
# Key files

A key pair is kept as a TOML document with the public key and the secret as hexadecimal text.  A
file is read only if its public key is that of its secret, as lower-case digits after any number of
marks.

* `KeyPair.load`    the secret that a document holds;
* `KeyPair.write`    a key pair as a document.
-/

namespace PayChannel

/-- a key pair as it is kept, both keys as text -/
structure KeyPair where
  publicKey : String
  secretKey : String
deriving DecidableEq

instance : Json.Record KeyPair where
  layout := [("public_key", .text), ("secret_key", .text)]
  values k := (k.publicKey, k.secretKey, ())
  ofValues := fun (publicKey, secretKey, ()) => { publicKey, secretKey }
  ofValues_values _ := rfl

namespace KeyPair

def ofSecret (S : SignatureScheme) (secret : Secret) : KeyPair where
  publicKey := (S.account secret).toHex
  secretKey := Hex.text secret.bytes

def write (k : KeyPair) : String :=
  Toml.textLine "public_key" k.publicKey ++ Toml.textLine "secret_key" k.secretKey

def ofEntries? (entries : Toml.Entries) : Option KeyPair := do
  let publicKey ← (Toml.Table.get? entries "public_key").bind Toml.Value.text?
  let secretKey ← (Toml.Table.get? entries "secret_key").bind Toml.Value.text?
  some { publicKey, secretKey }

/-- the secret of a key pair, if the public key is its own -/
def secret (S : SignatureScheme) (k : KeyPair) : Except Fault Secret :=
  match Secret.ofText (Bytes.ofString k.secretKey) with
  | .error reason => .error (.secretText reason)
  | .ok secret =>
    if Hex.encode (S.account secret).bytes = Hex.dropMarks (Bytes.ofString k.publicKey) then
      .ok secret
    else .error .keyMismatch

def load (S : SignatureScheme) (text : String) : Except Fault Secret :=
  match (Toml.parse text).bind ofEntries? with
  | none => .error .keyText
  | some k => k.secret S

end KeyPair
end PayChannel
