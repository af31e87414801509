import PayChannel.Json.Record
import PayChannel.Api.Requests
import PayChannel.Api.Responses

/-!
# JSON forms

The layout of every record that is sent or received.  Events are only written: as objects whose
first member names the kind of event.

* `Event.toJson`    the JSON text of an event.
-/

namespace PayChannel

open Json

instance : Record Channel where
  layout := [("sender", .account), ("receiver", .account), ("balance", .amount),
    ("nonce", .word 64), ("opened_at", .word 64), ("expires_at", .word 64)]
  values c := (c.sender, c.receiver, c.balance, c.nonce, c.openedAt, c.expiresAt, ())
  ofValues := fun (sender, receiver, balance, nonce, openedAt, expiresAt, ()) =>
    { sender, receiver, balance, nonce, openedAt, expiresAt }
  ofValues_values _ := rfl

instance : Record Voucher where
  layout := [("session_id", .word 32), ("amount", .amount), ("signature", .octets)]
  values v := (v.sessionId, v.amount, v.signature, ())
  ofValues := fun (sessionId, amount, signature, ()) => { sessionId, amount, signature }
  ofValues_values _ := rfl

instance : Record Receipt where
  layout := [("sender", .account), ("receiver", .account), ("session_id", .word 32),
    ("amount", .amount), ("remaining", .amount)]
  values r := (r.sender, r.receiver, r.sessionId, r.amount, r.remaining, ())
  ofValues := fun (sender, receiver, sessionId, amount, remaining, ()) =>
    { sender, receiver, sessionId, amount, remaining }
  ofValues_values _ := rfl

instance : Record Closing where
  layout := [("sender", .account), ("receiver", .account), ("nonce", .word 64),
    ("refunded", .amount), ("closed_at", .word 64)]
  values c := (c.sender, c.receiver, c.nonce, c.refunded, c.closedAt, ())
  ofValues := fun (sender, receiver, nonce, refunded, closedAt, ()) =>
    { sender, receiver, nonce, refunded, closedAt }
  ofValues_values _ := rfl

instance : Record ReceiverStats where
  layout := [("receiver", .account), ("total_claimed", .amount), ("clients", .word 32)]
  values s := (s.receiver, s.total, s.clients, ())
  ofValues := fun (receiver, total, clients, ()) => { receiver, total, clients }
  ofValues_values _ := rfl

instance : Record OpenRequest where
  layout := [("sender", .account), ("receiver", .account), ("amount", .amount),
    ("duration", .word 64)]
  values q := (q.sender, q.receiver, q.amount, q.duration, ())
  ofValues := fun (sender, receiver, amount, duration, ()) => { sender, receiver, amount, duration }
  ofValues_values _ := rfl

instance : Record FundRequest where
  layout := [("sender", .account), ("receiver", .account), ("amount", .amount)]
  values q := (q.sender, q.receiver, q.amount, ())
  ofValues := fun (sender, receiver, amount, ()) => { sender, receiver, amount }
  ofValues_values _ := rfl

instance : Record ClaimRequest where
  layout := [("sender", .account), ("receiver", .account), ("session_id", .word 32),
    ("amount", .amount), ("signature", .octets)]
  values q := (q.sender, q.receiver, q.sessionId, q.amount, q.signature, ())
  ofValues := fun (sender, receiver, sessionId, amount, signature, ()) =>
    { sender, receiver, sessionId, amount, signature }
  ofValues_values _ := rfl

instance : Record CloseRequest where
  layout := [("sender", .account), ("receiver", .account)]
  values q := (q.sender, q.receiver, ())
  ofValues := fun (sender, receiver, ()) => { sender, receiver }
  ofValues_values _ := rfl

instance : Record CloseExpiredRequest where
  layout := [("caller", .account)]
  values q := (q.caller, ())
  ofValues := fun (caller, ()) => { caller }
  ofValues_values _ := rfl

instance : Record Health where
  layout := [("status", .text), ("height", .word 64)]
  values h := (h.status, h.height, ())
  ofValues := fun (status, height, ()) => { status, height }
  ofValues_values _ := rfl

instance : Record Session where
  layout := [("last_claimed_session", .word 32), ("next_nonce", .word 64)]
  values s := (s.lastClaimed, s.nextNonce, ())
  ofValues := fun (lastClaimed, nextNonce, ()) => { lastClaimed, nextNonce }
  ofValues_values _ := rfl

instance : Record Holdings where
  layout := [("account", .account), ("free", .amount), ("locked", .amount)]
  values h := (h.account, h.free, h.locked, ())
  ofValues := fun (account, free, locked, ()) => { account, free, locked }
  ofValues_values _ := rfl

instance : Record Complaint where
  layout := [("code", .text), ("error", .text)]
  values c := (c.code, c.error, ())
  ofValues := fun (code, error, ()) => { code, error }
  ofValues_values _ := rfl

namespace Event

def name : Event → String
  | opened _ => "ChannelOpened"
  | funded .. => "BalanceAdded"
  | claimed .. => "PaymentClaimed"
  | closed .. => "ChannelClosed"

def members : Event → Bytes
  | opened channel => writeMembers (Record.layout Channel) (Record.values channel)
  | funded sender receiver amount height =>
    writeMembers [("sender", .account), ("receiver", .account), ("amount", .amount),
      ("at", .word 64)] (sender, receiver, amount, height, ())
  | claimed sender receiver sessionId amount =>
    writeMembers [("sender", .account), ("receiver", .account), ("session_id", .word 32),
      ("amount", .amount)] (sender, receiver, sessionId, amount, ())
  | closed sender receiver refunded height =>
    writeMembers [("sender", .account), ("receiver", .account), ("refunded", .amount),
      ("at", .word 64)] (sender, receiver, refunded, height, ())

def toJson (e : Event) : Bytes :=
  writeObject (writeMembers [("event", .text)] (e.name, ()) ++ e.members)

end Event
end PayChannel
