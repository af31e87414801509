import PayChannel.Hex

/-!
# What keeps a node from doing its work

* `Fault.message`    the fault in words.
-/

namespace PayChannel

inductive Fault where
  /-- a file cannot be read or written -/
  | storage
  /-- a file does not hold a configuration -/
  | configText
  /-- a configuration holds a number that cannot be written -/
  | configNumber
  | zeroBlockTime
  | zeroRequestTtl
  /-- a file does not hold a key pair -/
  | keyText
  /-- the secret of a key pair is not readable -/
  | secretText (reason : HexError)
  /-- the public key of a key pair is not that of its secret -/
  | keyMismatch
deriving DecidableEq

namespace Fault

def message : Fault → String
  | storage => "io error"
  | configText => "configuration error: unable to parse config"
  | configNumber => "configuration error: unable to encode config"
  | zeroBlockTime => "configuration error: block_time_ms must be positive"
  | zeroRequestTtl => "configuration error: request_ttl_secs must be positive"
  | keyText => "configuration error: failed to decode keypair"
  | secretText reason => "cryptography error: invalid secret key encoding: " ++ reason.message
  | keyMismatch => "cryptography error: public key does not match secret key"

end Fault
end PayChannel
