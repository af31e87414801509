import PayChannel.Ledger
import PayChannel.Channel
import PayChannel.Refusal

/-!
# The registry of channels

The registry holds the open channels and what has to outlive them: the nonce that the next channel
of a pair gets, the last session claimed in the current generation, the funds each sender has
locked, the payments since statistics were last drained, and a bounded log of events.  It settles
against a ledger.

* `get?_channels_retire`, `nextNonce_retire`, `lastSession_retire`    what closing a channel does
  to the tables;
* `length_emit_le`    the log never holds more than `eventCapacity` events.
-/

namespace PayChannel

/-- the open channels, what outlives them, and the ledger they settle against -/
structure Registry (L : Type) where
  ledger : L
  channels : Table Ends Channel
  nonces : Table Ends Nonce
  sessions : Table Ends SessionId
  locked : Table Account Amount
  paid : Table Account Amount
  clients : Table Account (Table Account Unit)
  events : List Event

namespace Registry

variable {L : Type}

/-- how many events are kept until they are taken; the oldest are dropped first -/
def eventCapacity : Nat := 1024

def ofLedger (ledger : L) : Registry L where
  ledger := ledger
  channels := Table.empty
  nonces := Table.empty
  sessions := Table.empty
  locked := Table.empty
  paid := Table.empty
  clients := Table.empty
  events := []

/-! ## Queries -/

def height [Ledger L] (r : Registry L) : Height :=
  Ledger.height r.ledger

def channel? (r : Registry L) (ends : Ends) : Option Channel :=
  r.channels.get? ends

/-- the last session claimed in the current generation, zero if none was -/
def lastSession (r : Registry L) (ends : Ends) : SessionId :=
  (r.sessions.get? ends).getD Word.zero

/-- the nonce of the open channel, or the one that the next channel of the pair gets -/
def nextNonce (r : Registry L) (ends : Ends) : Nonce :=
  (r.nonces.get? ends).getD Word.zero

def totalLocked (r : Registry L) (account : Account) : Amount :=
  (r.locked.get? account).getD Word.zero

/-- the payments of each receiver since statistics were last drained, in the order of receivers -/
def statistics (r : Registry L) : List ReceiverStats :=
  r.paid.entries.map fun e =>
    ⟨e.1, e.2, Word.truncate (((r.clients.get? e.1).map Table.size).getD 0)⟩

/-! ## Bookkeeping -/

/-- appends an event to the log; a full log loses its oldest event first -/
def emit (r : Registry L) (event : Event) : Registry L :=
  let kept := if r.events.length = eventCapacity then r.events.drop 1 else r.events
  { r with events := kept ++ [event] }

def lock (r : Registry L) (account : Account) (amount : Amount) : Registry L :=
  { r with locked := r.locked.insert account ((r.totalLocked account).satAdd amount) }

/-- takes from the funds an account has locked; an account with nothing locked is not listed -/
def unlock (r : Registry L) (account : Account) (amount : Amount) : Registry L :=
  match r.locked.get? account with
  | none => r
  | some total =>
    let rest := total.satSub amount
    if rest.val = 0 then { r with locked := r.locked.erase account }
    else { r with locked := r.locked.insert account rest }

def recordPayment (r : Registry L) (sender receiver : Account) (amount : Amount) : Registry L :=
  let total := (r.paid.get? receiver).getD Word.zero
  let known := (r.clients.get? receiver).getD Table.empty
  { r with
    paid := r.paid.insert receiver (total.satAdd amount)
    clients := r.clients.insert receiver (known.insert sender ()) }

/-- takes a channel off the registry and moves its pair on to the next generation; the refund is
left to the caller -/
def retire (r : Registry L) (ends : Ends) (now : Height) : Option Closing × Registry L :=
  match r.channels.get? ends with
  | none => (none, r)
  | some c =>
    let r := { r with channels := r.channels.erase ends }
    let r := r.unlock c.sender c.balance
    let r := { r with
      sessions := r.sessions.erase ends
      nonces := r.nonces.insert ends (c.nonce.satAdd Word.one) }
    let r := r.emit (.closed c.sender c.receiver c.balance now)
    (some ⟨c.sender, c.receiver, c.nonce, c.balance, now⟩, r)

/-- takes a channel off the registry and gives its balance back to the sender -/
def close [Ledger L] (r : Registry L) (ends : Ends) (now : Height) :
    Option Closing × Registry L :=
  match r.retire ends now with
  | (none, r) => (none, r)
  | (some closing, r) =>
    (some closing, { r with ledger := Ledger.credit r.ledger closing.sender closing.refunded })

/-- closes the channels between the ends listed, one after the other -/
def closeAll [Ledger L] (r : Registry L) (now : Height) : List Ends → List Closing × Registry L
  | [] => ([], r)
  | ends :: rest =>
    match r.close ends now with
    | (none, r) => closeAll r now rest
    | (some closing, r) =>
      let (closings, r) := closeAll r now rest
      (closing :: closings, r)

/-! ## What bookkeeping does to the tables -/

theorem length_emit_le (r : Registry L) (event : Event) (h : r.events.length ≤ eventCapacity) :
    (r.emit event).events.length ≤ eventCapacity := by
  unfold emit
  by_cases hf : r.events.length = eventCapacity
  · simp only [if_pos hf, List.length_append, List.length_drop, List.length_singleton]
    have : 1 ≤ eventCapacity := by decide
    omega
  · simp only [if_neg hf, List.length_append, List.length_singleton]
    omega

theorem channels_unlock (r : Registry L) (account : Account) (amount : Amount) :
    (r.unlock account amount).channels = r.channels := by
  unfold unlock
  split
  · rfl
  · dsimp only
    split <;> rfl

theorem nonces_unlock (r : Registry L) (account : Account) (amount : Amount) :
    (r.unlock account amount).nonces = r.nonces := by
  unfold unlock
  split
  · rfl
  · dsimp only
    split <;> rfl

theorem sessions_unlock (r : Registry L) (account : Account) (amount : Amount) :
    (r.unlock account amount).sessions = r.sessions := by
  unfold unlock
  split
  · rfl
  · dsimp only
    split <;> rfl

theorem retire_none {r : Registry L} {ends : Ends} (h : r.channels.get? ends = none)
    (now : Height) : r.retire ends now = (none, r) := by
  rw [retire, h]

theorem get?_channels_retire (r : Registry L) (ends other : Ends) (now : Height) :
    (r.retire ends now).2.channels.get? other =
      if other = ends then none else r.channels.get? other := by
  cases h : r.channels.get? ends with
  | none =>
    rw [retire_none h]
    split
    · rename_i he
      rw [he, h]
    · rfl
  | some c =>
    simp only [retire, h, emit, channels_unlock]
    exact Table.get?_erase _ _ _

theorem nextNonce_retire {r : Registry L} {ends : Ends} {c : Channel}
    (h : r.channels.get? ends = some c) (other : Ends) (now : Height) :
    (r.retire ends now).2.nextNonce other =
      if other = ends then c.nonce.satAdd Word.one else r.nextNonce other := by
  simp only [retire, h, emit, nextNonce, nonces_unlock, Table.get?_insert]
  split <;> rfl

theorem lastSession_retire {r : Registry L} {ends : Ends} {c : Channel}
    (h : r.channels.get? ends = some c) (other : Ends) (now : Height) :
    (r.retire ends now).2.lastSession other =
      if other = ends then Word.zero else r.lastSession other := by
  simp only [retire, h, emit, lastSession, sessions_unlock, Table.get?_erase]
  split <;> rfl

end Registry
end PayChannel
