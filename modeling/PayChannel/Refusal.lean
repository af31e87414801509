/-!
# Why a channel operation is refused

* `ofCode?_code`    every reason is told apart by its code.
-/

namespace PayChannel

/-- why a channel operation is refused -/
inductive Refusal where
  | alreadyOpen
  | notFound
  | expired
  | insufficientFunds
  | insufficientBalance
  | invalidSignature
  | staleSession
  | unauthorized
  | sameEnds
  | invalidDuration
  | balanceOverflow
deriving DecidableEq

namespace Refusal

/-- the word by which clients tell the reasons apart -/
def code : Refusal → String
  | alreadyOpen => "ChannelAlreadyOpen"
  | notFound => "ChannelNotFound"
  | expired => "ChannelExpired"
  | insufficientFunds => "InsufficientFunds"
  | insufficientBalance => "InsufficientChannelBalance"
  | invalidSignature => "InvalidSignature"
  | staleSession => "StaleSessionId"
  | unauthorized => "Unauthorized"
  | sameEnds => "SameChannelEnds"
  | invalidDuration => "InvalidDuration"
  | balanceOverflow => "BalanceOverflow"

def all : List Refusal :=
  [alreadyOpen, notFound, expired, insufficientFunds, insufficientBalance, invalidSignature,
    staleSession, unauthorized, sameEnds, invalidDuration, balanceOverflow]

def ofCode? (code : String) : Option Refusal :=
  all.find? fun r => r.code = code

def message : Refusal → String
  | alreadyOpen => "Channel already open"
  | notFound => "Channel not found"
  | expired => "Channel expired"
  | insufficientFunds => "Insufficient free balance"
  | insufficientBalance => "Insufficient channel balance"
  | invalidSignature => "Invalid signature"
  | staleSession => "Session id already consumed"
  | unauthorized => "Caller is not a party allowed to perform this operation"
  | sameEnds => "Sender and receiver are the same account"
  | invalidDuration => "Channel duration must be positive"
  | balanceOverflow => "Balance overflow"

def status : Refusal → Nat
  | alreadyOpen => 409
  | notFound => 404
  | expired => 410
  | insufficientFunds => 402
  | insufficientBalance => 402
  | invalidSignature => 401
  | staleSession => 409
  | unauthorized => 403
  | sameEnds => 400
  | invalidDuration => 400
  | balanceOverflow => 422

theorem ofCode?_code (r : Refusal) : ofCode? r.code = some r := by
  cases r <;> decide

end Refusal
end PayChannel
