import PayChannel.Channel

/-!
# Responses

What the service tells besides channels, receipts and closings.
-/

namespace PayChannel

structure Health where
  status : String
  height : Height
deriving DecidableEq

/-- what a sender needs to know to sign the next voucher -/
structure Session where
  lastClaimed : SessionId
  nextNonce : Nonce
deriving DecidableEq

structure Holdings where
  account : Account
  free : Amount
  locked : Amount
deriving DecidableEq

structure Complaint where
  code : String
  error : String
deriving DecidableEq

end PayChannel
