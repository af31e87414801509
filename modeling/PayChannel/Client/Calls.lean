import PayChannel.Client.Transport
import PayChannel.Service.Auth
import PayChannel.Service.Route

/-!
# Clients

A client calls a service in the name of one account.  It signs every attempt of a signed call anew,
with a timestamp that is later than all it has used, so that no two of its messages are the same.

* `Client.timestampAfter`, `Client.nextTimestamp`    the timestamp of the next message;
* `Client.query`, `Client.submit`    reads, and signed calls;
* `Client.openChannel` and its like    the calls of the service.
-/

namespace PayChannel

/-- a client: its secret, its policy, and the last timestamp it has used -/
structure Client where
  secret : Secret
  policy : RetryPolicy
  lastTimestamp : Millis

namespace Client

def start (secret : Secret) (policy : RetryPolicy) : Client :=
  ⟨secret, policy, Word.zero⟩

def account (c : Client) (S : SignatureScheme) : Account :=
  S.account c.secret

/-- the timestamp after another one: the clock, or one more than the other if that is later.  After the
largest number, to which one cannot be added, it is that number again -/
def timestampAfter (last now : Millis) : Millis :=
  now.maxOf (last.satAdd Word.one)

def nextTimestamp (c : Client) (now : Millis) : Millis × Client :=
  let timestamp := timestampAfter c.lastTimestamp now
  (timestamp, { c with lastTimestamp := timestamp })

theorem val_timestampAfter (last now : Millis) : (timestampAfter last now).val
    = Nat.max now.val (min (last.val + 1) (Nat.pow 2 64 - 1)) := by
  rw [timestampAfter, Word.val_maxOf, Word.val_satAdd]
  rfl

theorem lt_timestampAfter {last : Millis} (h : last.val < Nat.pow 2 64 - 1) (now : Millis) :
    last < timestampAfter last now := by
  rw [Word.lt_iff, val_timestampAfter, Nat.min_eq_left h]
  exact Nat.le_max_right _ _

def signedHeaders (c : Client) (S : SignatureScheme) (timestamp : Millis) (body : Bytes) :
    List (String × String) :=
  [(Auth.signerHeader, (c.account S).toHex),
   (Auth.timestampHeader, Decimal.text timestamp.val),
   (Auth.signatureHeader, Hex.text (S.signRequest c.secret timestamp body))]

section
variable {σ α : Type}

def query (c : Client) (T : Transport σ) (decode : Bytes → Except Json.Flaw α) (path : String)
    (s : σ) : Except Failure α × σ :=
  attempts c.policy decode (T.get path) T.pause c.policy.spare 1 s

def post (S : SignatureScheme) (T : Transport σ) (path : String) (body : Bytes)
    (s : Client × σ) : Delivery × Client × σ :=
  let (now, t) := T.now s.2
  let (timestamp, c) := s.1.nextTimestamp now
  let (delivery, t) := T.post path (c.signedHeaders S timestamp body) body t
  (delivery, c, t)

def submit (S : SignatureScheme) (T : Transport σ) (decode : Bytes → Except Json.Flaw α)
    (route : SignedRoute) (body : Bytes) (c : Client) (s : σ) : Except Failure α × Client × σ :=
  attempts c.policy decode (post S T route.path body)
    (fun isLost duration s => (s.1, T.pause isLost duration s.2)) c.policy.spare 1 (c, s)

end

/-! ## Signed calls -/

section
variable {σ : Type} (S : SignatureScheme) (T : Transport σ)

def openChannel (receiver : Account) (amount : Amount) (duration : Height) (c : Client) (s : σ) :
    Except Failure Channel × Client × σ :=
  let q : OpenRequest := { sender := c.account S, receiver, amount, duration }
  submit S T (Json.decode Channel) .openChannel (Json.write q) c s

def addBalance (receiver : Account) (amount : Amount) (c : Client) (s : σ) :
    Except Failure Channel × Client × σ :=
  let q : FundRequest := { sender := c.account S, receiver, amount }
  submit S T (Json.decode Channel) .addBalance (Json.write q) c s

def claim (sender : Account) (voucher : Voucher) (c : Client) (s : σ) :
    Except Failure Receipt × Client × σ :=
  let q : ClaimRequest :=
    { sender, receiver := c.account S, sessionId := voucher.sessionId, amount := voucher.amount,
      signature := voucher.signature }
  submit S T (Json.decode Receipt) .claim (Json.write q) c s

def closeChannel (ends : Ends) (c : Client) (s : σ) : Except Failure Closing × Client × σ :=
  let q : CloseRequest := { sender := ends.sender, receiver := ends.receiver }
  submit S T (Json.decode Closing) .closeChannel (Json.write q) c s

def closeExpired (c : Client) (s : σ) : Except Failure (List Closing) × Client × σ :=
  let q : CloseExpiredRequest := { caller := c.account S }
  submit S T (Json.decodeList Closing) .closeExpired (Json.write q) c s

/-- signs a voucher of the client's own; no service is called -/
def signVoucher (c : Client) (receiver : Account) (nonce : Nonce) (sessionId : SessionId)
    (amount : Amount) : Voucher :=
  S.voucher c.secret receiver nonce sessionId amount

end

/-! ## Reads -/

section
variable {σ : Type} (T : Transport σ)

def channelPath (ends : Ends) : String :=
  "/channels/" ++ ends.sender.toHex ++ "/" ++ ends.receiver.toHex

def health (c : Client) (s : σ) : Except Failure Health × σ :=
  c.query T (Json.decode Health) "/health" s

def channel? (ends : Ends) (c : Client) (s : σ) : Except Failure (Option Channel) × σ :=
  match c.query T (Json.decode Channel) (channelPath ends) s with
  | (.ok channel, s) => (.ok (some channel), s)
  | (.error (.rejected .notFound), s) => (.ok none, s)
  | (.error failure, s) => (.error failure, s)

def session (ends : Ends) (c : Client) (s : σ) : Except Failure Session × σ :=
  c.query T (Json.decode Session) (channelPath ends ++ "/session") s

def lastSession (ends : Ends) (c : Client) (s : σ) : Except Failure SessionId × σ :=
  match c.session T ends s with
  | (.ok session, s) => (.ok session.lastClaimed, s)
  | (.error failure, s) => (.error failure, s)

def holdings (account : Account) (c : Client) (s : σ) : Except Failure Holdings × σ :=
  c.query T (Json.decode Holdings) ("/accounts/" ++ account.toHex) s

def statistics (c : Client) (s : σ) : Except Failure (List ReceiverStats) × σ :=
  c.query T (Json.decodeList ReceiverStats) "/statistics" s

end

end Client
end PayChannel
