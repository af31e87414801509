import PayChannel.Registry.Basic
import PayChannel.Voucher

/-!
# Operations on the registry

Every operation checks first and changes the registry afterwards.  Its answer comes with the
registry that follows it, also when the answer is a refusal; the one step of an operation that can
still fail after the checks is a debit of the ledger, and it comes before all other changes.

* `openChannel`, `addBalance`, `claim`, `closeChannel`    operations that may be refused;
* `closeExpired`, `sweep`    operations that close what is due;
* `takeEvents`, `drainStatistics`    reading that starts afresh.
-/

namespace PayChannel.Registry

variable {L : Type} [Ledger L]

/-- the height at which a channel opened now expires: later than now, and a height -/
def expiry? (now duration : Height) : Option Height :=
  if duration.val = 0 then none else now.checkedAdd? duration

/-- the expired channel that a new one between the same ends takes the place of -/
def staleChannel (r : Registry L) (ends : Ends) : Except Refusal (Option Channel) :=
  match r.channels.get? ends with
  | none => .ok none
  | some c => if c.isExpired r.height then .ok (some c) else .error .alreadyOpen

/-- moves the difference between what a sender locks and what it gets back -/
def settleLock (l : L) (sender : Account) (amount refund : Amount) : Bool × L :=
  if refund ≤ amount then Ledger.debit l sender (amount.satSub refund)
  else (true, Ledger.credit l sender (refund.satSub amount))

/-- locks an amount of the sender's free balance into a new channel.  An expired channel between
the same ends is closed in the same step, and its refund counts towards the amount. -/
def openChannel (r : Registry L) (sender receiver : Account) (amount : Amount)
    (duration : Height) : Except Refusal Channel × Registry L :=
  if sender = receiver then (.error .sameEnds, r)
  else
    let ends : Ends := ⟨sender, receiver⟩
    let now := r.height
    match expiry? now duration with
    | none => (.error .invalidDuration, r)
    | some expiresAt =>
      match r.staleChannel ends with
      | .error refusal => (.error refusal, r)
      | .ok stale =>
        let refund := (stale.map Channel.balance).getD Word.zero
        if (Ledger.free r.ledger sender).satAdd refund < amount then
          (.error .insufficientFunds, r)
        else
          match settleLock r.ledger sender amount refund with
          | (false, ledger) => (.error .insufficientFunds, { r with ledger })
          | (true, ledger) =>
            let r := ({ r with ledger }.retire ends now).2
            let channel : Channel :=
              { sender, receiver, balance := amount, nonce := r.nextNonce ends, openedAt := now,
                expiresAt }
            let r := { r with channels := r.channels.insert ends channel }
            (.ok channel, (r.lock sender amount).emit (.opened channel))

/-- locks a further amount of the sender's free balance into its channel -/
def addBalance (r : Registry L) (sender receiver : Account) (amount : Amount) :
    Except Refusal Channel × Registry L :=
  let ends : Ends := ⟨sender, receiver⟩
  match r.channels.get? ends with
  | none => (.error .notFound, r)
  | some c =>
    if c.isExpired r.height then (.error .expired, r)
    else
      match c.balance.checkedAdd? amount with
      | none => (.error .balanceOverflow, r)
      | some balance =>
        match Ledger.debit r.ledger sender amount with
        | (false, ledger) => (.error .insufficientFunds, { r with ledger })
        | (true, ledger) =>
          let channel := { c with balance }
          let now := r.height
          let r := { r with ledger, channels := r.channels.insert ends channel }
          (.ok channel, (r.lock sender amount).emit (.funded sender receiver amount now))

/-- redeems a voucher for its receiver.  The signature is checked under the channel's own nonce, so
that no voucher outlives its generation; the amount is what this session adds, not a running
total. -/
def claim (S : SignatureScheme) (r : Registry L) (sender receiver : Account)
    (sessionId : SessionId) (amount : Amount) (signature : Bytes) :
    Except Refusal Receipt × Registry L :=
  let ends : Ends := ⟨sender, receiver⟩
  match r.channels.get? ends with
  | none => (.error .notFound, r)
  | some c =>
    if c.isExpired r.height then (.error .expired, r)
    else if !S.verifyVoucher sender receiver c.nonce sessionId amount signature then
      (.error .invalidSignature, r)
    else if sessionId ≤ r.lastSession ends then (.error .staleSession, r)
    else
      match c.balance.checkedSub? amount with
      | none => (.error .insufficientBalance, r)
      | some remaining =>
        let r := { r with
          channels := r.channels.insert ends { c with balance := remaining }
          sessions := r.sessions.insert ends sessionId
          ledger := Ledger.credit r.ledger receiver amount }
        let r := (r.unlock sender amount).recordPayment sender receiver amount
        (.ok { sender, receiver, sessionId, amount, remaining },
          r.emit (.claimed sender receiver sessionId amount))

def claimVoucher (S : SignatureScheme) (r : Registry L) (sender receiver : Account)
    (voucher : Voucher) : Except Refusal Receipt × Registry L :=
  r.claim S sender receiver voucher.sessionId voucher.amount voucher.signature

/-- closes a channel before it is due; either end may, and the balance goes back to the sender -/
def closeChannel (r : Registry L) (caller sender receiver : Account) :
    Except Refusal Closing × Registry L :=
  if caller ≠ sender ∧ caller ≠ receiver then (.error .unauthorized, r)
  else
    match r.close ⟨sender, receiver⟩ r.height with
    | (none, r) => (.error .notFound, r)
    | (some closing, r) => (.ok closing, r)

/-- the ends of the expired channels that pass a test, in order -/
def expiredEnds (r : Registry L) (chosen : Channel → Bool) : List Ends :=
  (r.channels.values.filter fun c => chosen c && c.isExpired r.height).map Channel.ends

/-- closes the expired channels that an account is a party to -/
def closeExpired (r : Registry L) (caller : Account) : List Closing × Registry L :=
  r.closeAll r.height (r.expiredEnds fun c => c.hasParty caller)

def sweep (r : Registry L) : List Closing × Registry L :=
  r.closeAll r.height (r.expiredEnds fun _ => true)

omit [Ledger L] in
/-- the events of the log, oldest first, and the registry with an empty log -/
def takeEvents (r : Registry L) : List Event × Registry L :=
  (r.events, { r with events := [] })

omit [Ledger L] in
/-- the statistics, and the registry in which they start afresh -/
def drainStatistics (r : Registry L) : List ReceiverStats × Registry L :=
  (r.statistics, { r with paid := Table.empty, clients := Table.empty })

end PayChannel.Registry
