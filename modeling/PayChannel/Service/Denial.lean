/-!
# Why a signed request is denied

These reasons come before any channel logic: the request is not shown to come from its signer, or
not for the first time.
-/

namespace PayChannel

inductive Denial where
  | missingCredentials
  | malformedCredentials
  | invalidSignature
  | staleTimestamp
  | replayed
  | payloadTooLarge
deriving DecidableEq

namespace Denial

def code : Denial → String
  | missingCredentials => "MissingCredentials"
  | malformedCredentials => "MalformedCredentials"
  | invalidSignature => "InvalidRequestSignature"
  | staleTimestamp => "StaleTimestamp"
  | replayed => "Replayed"
  | payloadTooLarge => "PayloadTooLarge"

def message : Denial → String
  | missingCredentials => "Missing request credentials"
  | malformedCredentials => "Malformed request credentials"
  | invalidSignature => "Invalid request signature"
  | staleTimestamp => "Request timestamp outside the accepted window"
  | replayed => "Request already processed"
  | payloadTooLarge => "Request body exceeds the size limit"

def status : Denial → Nat
  | missingCredentials => 401
  | malformedCredentials => 400
  | invalidSignature => 401
  | staleTimestamp => 408
  | replayed => 409
  | payloadTooLarge => 413

end Denial
end PayChannel
