import PayChannel.Word
import PayChannel.Account

/-!
# Channels and what is told about them

A channel runs one way, from a sender to a receiver, and a pair of accounts has at most one open
channel in each direction.  A channel expires at a block height and counts as expired from that
height on.

* `Ends.keyBytes` orders channels by sender, then by receiver.
-/

namespace PayChannel

structure Ends where
  sender : Account
  receiver : Account
deriving DecidableEq

namespace Ends

instance : ByteKey Ends where
  keyBytes e := e.sender.bytes ++ e.receiver.bytes
  keyBytes_injective := fun a b h => by
    have hl : a.sender.bytes.length = b.sender.bytes.length := by
      rw [a.sender.length_eq, b.sender.length_eq]
    obtain ⟨h1, h2⟩ := List.append_inj h hl
    cases a
    cases b
    rw [Ends.mk.injEq]
    exact ⟨Account.ext_bytes h1, Account.ext_bytes h2⟩

def brief (e : Ends) : String :=
  "ChannelKey \x7b sender: " ++ e.sender.brief ++ ", receiver: " ++ e.receiver.brief ++ " \x7d"

end Ends

structure Channel where
  sender : Account
  receiver : Account
  balance : Amount
  nonce : Nonce
  openedAt : Height
  expiresAt : Height
deriving DecidableEq

namespace Channel

def ends (c : Channel) : Ends :=
  ⟨c.sender, c.receiver⟩

def isExpired (c : Channel) (height : Height) : Bool :=
  c.expiresAt ≤ height

def hasParty (c : Channel) (account : Account) : Bool :=
  c.sender = account || c.receiver = account

theorem isExpired_iff (c : Channel) (height : Height) :
    c.isExpired height = true ↔ c.expiresAt.val ≤ height.val := by
  rw [isExpired, decide_eq_true_iff, Word.le_iff]

theorem hasParty_iff (c : Channel) (account : Account) :
    c.hasParty account = true ↔ account = c.sender ∨ account = c.receiver := by
  rw [hasParty, Bool.or_eq_true_iff, decide_eq_true_iff, decide_eq_true_iff, eq_comm,
    eq_comm (a := c.receiver)]

end Channel

/-- what a receiver gets told about a redeemed voucher -/
structure Receipt where
  sender : Account
  receiver : Account
  sessionId : SessionId
  amount : Amount
  remaining : Amount
deriving DecidableEq

structure Closing where
  sender : Account
  receiver : Account
  nonce : Nonce
  refunded : Amount
  closedAt : Height
deriving DecidableEq

/-- the payments one receiver has redeemed, and how many accounts they came from -/
structure ReceiverStats where
  receiver : Account
  total : Amount
  clients : Word 32
deriving DecidableEq

inductive Event where
  | opened (channel : Channel)
  | funded (sender receiver : Account) (amount : Amount) (height : Height)
  | claimed (sender receiver : Account) (sessionId : SessionId) (amount : Amount)
  | closed (sender receiver : Account) (refunded : Amount) (height : Height)
deriving DecidableEq

end PayChannel
