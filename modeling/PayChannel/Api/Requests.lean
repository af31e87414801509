import PayChannel.Refusal
import PayChannel.Voucher

/-!
# Requests

What callers ask of the service.  Each request is checked against the account that signed it before
it reaches the registry: a sender opens and funds, a receiver claims, either end closes, and due
channels are closed in the caller's own name.

* `OpenRequest.check`, `FundRequest.check`, `ClaimRequest.check`, `CloseRequest.check`,
  `CloseExpiredRequest.check`    nothing, or why the signer may not ask this.
-/

namespace PayChannel

structure OpenRequest where
  sender : Account
  receiver : Account
  amount : Amount
  duration : Height
deriving DecidableEq

structure FundRequest where
  sender : Account
  receiver : Account
  amount : Amount
deriving DecidableEq

structure ClaimRequest where
  sender : Account
  receiver : Account
  sessionId : SessionId
  amount : Amount
  signature : Bytes
deriving DecidableEq

structure CloseRequest where
  sender : Account
  receiver : Account
deriving DecidableEq

structure CloseExpiredRequest where
  caller : Account
deriving DecidableEq

/-- only the sender opens; the ends differ and the duration is positive -/
def OpenRequest.check (q : OpenRequest) (signer : Account) : Except Refusal Unit :=
  if signer ≠ q.sender then .error .unauthorized
  else if q.sender = q.receiver then .error .sameEnds
  else if q.duration.val = 0 then .error .invalidDuration
  else .ok ()

def FundRequest.check (q : FundRequest) (signer : Account) : Except Refusal Unit :=
  if signer ≠ q.sender then .error .unauthorized else .ok ()

/-- only the receiver claims, and the signature has the length of one -/
def ClaimRequest.check (q : ClaimRequest) (signer : Account) : Except Refusal Unit :=
  if signer ≠ q.receiver then .error .unauthorized
  else if q.signature.length ≠ signatureLength then .error .invalidSignature
  else .ok ()

def CloseRequest.check (q : CloseRequest) (signer : Account) : Except Refusal Unit :=
  if signer ≠ q.sender ∧ signer ≠ q.receiver then .error .unauthorized else .ok ()

def CloseExpiredRequest.check (q : CloseExpiredRequest) (signer : Account) :
    Except Refusal Unit :=
  if signer ≠ q.caller then .error .unauthorized else .ok ()

end PayChannel
