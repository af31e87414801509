import PayChannel.Decimal
import PayChannel.Voucher
import PayChannel.Http.Message
import PayChannel.Service.Denial
import PayChannel.Service.Replay

/-!
# Who signed a request

A signed request names its signer, its timestamp and its signature in three headers.  It is
admitted by its headers when it arrives, and authenticated when its body is there; the clock is
read once, on arrival.

* `checkHeaders`    checks that need only the headers and the clock;
* `authenticate`    checks that need the body, and the only ones that touch the replay cache.
-/

namespace PayChannel

structure Credentials where
  signer : Account
  timestamp : Millis
  signature : Bytes
deriving DecidableEq

namespace Auth

def signerHeader : String := "X-Signer"

def timestampHeader : String := "X-Timestamp"

def signatureHeader : String := "X-Signature"

/-- the count of bytes that the body of a signed request may have -/
def maxBody : Nat := 16384

def required (headers : List Http.Header) (name : String) : Except Denial Bytes :=
  match Http.header? headers name with
  | none => .error .missingCredentials
  | some value => if Http.isVisible value then .ok value else .error .malformedCredentials

def readSigner (headers : List Http.Header) : Except Denial Account :=
  match required headers signerHeader with
  | .error denial => .error denial
  | .ok value =>
    match Account.ofText value with
    | .error _ => .error .malformedCredentials
    | .ok signer => .ok signer

def readTimestamp (headers : List Http.Header) : Except Denial Millis :=
  match required headers timestampHeader with
  | .error denial => .error denial
  | .ok value =>
    match Decimal.parseWord? 64 value with
    | none => .error .malformedCredentials
    | some timestamp => .ok timestamp

def readSignature (headers : List Http.Header) : Except Denial Bytes :=
  match required headers signatureHeader with
  | .error denial => .error denial
  | .ok value =>
    match Hex.decode (Hex.dropMarks value) with
    | .error _ => .error .malformedCredentials
    | .ok signature =>
      if signature.length = signatureLength then .ok signature else .error .malformedCredentials

def readCredentials (headers : List Http.Header) : Except Denial Credentials :=
  match readSigner headers with
  | .error denial => .error denial
  | .ok signer =>
    match readTimestamp headers with
    | .error denial => .error denial
    | .ok timestamp =>
      match readSignature headers with
      | .error denial => .error denial
      | .ok signature => .ok { signer, timestamp, signature }

/-- the length that the headers declare for the body, if they declare one -/
def declaredLength? (headers : List Http.Header) : Option Nat :=
  match Http.header? headers "Content-Length" with
  | none => none
  | some value =>
    if Http.isVisible value then (Decimal.parseWord? 64 value).map (·.val) else none

/-- what can be said of a request on its arrival: its credentials are complete, its timestamp is
inside the window, and the declared length is within the limit -/
def checkHeaders (window now : Millis) (headers : List Http.Header) : Except Denial Credentials :=
  match readCredentials headers with
  | .error denial => .error denial
  | .ok credentials =>
    if window.val < now.distance credentials.timestamp then .error .staleTimestamp
    else if maxBody < (declaredLength? headers).getD 0 then .error .payloadTooLarge
    else .ok credentials

/-- what can be said once the body is there: it is within the limit, the signature is the signer's,
and it is new to the cache -/
def authenticate (S : SignatureScheme) (cache : ReplayCache) (window now : Millis)
    (credentials : Credentials) (body : Bytes) : Except Denial Account × ReplayCache :=
  if maxBody < body.length then (.error .payloadTooLarge, cache)
  else if !S.verifyRequest credentials.signer credentials.timestamp body credentials.signature then
    (.error .invalidSignature, cache)
  else
    match cache.check window credentials.signature credentials.timestamp now with
    | (false, cache) => (.error .replayed, cache)
    | (true, cache) => (.ok credentials.signer, cache)

end Auth
end PayChannel
