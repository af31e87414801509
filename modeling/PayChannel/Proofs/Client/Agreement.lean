import Mathlib
import PayChannel.Client.Embedded
import PayChannel.Proofs.Service.Answers

/-!
# A client agrees with the registry

A client that calls a service gets what the registry would say if it were asked directly.  Between
the two stand the encoding of requests and answers, the signature, the checks of the service, the
statuses and codes of refusals, and the retries; and none of them makes a difference.  No refusal
has a status that is worth a second attempt, so a request that is let in is sent once.

* `attempts_of_final`, `submit_of_final`    an attempt that settles the call is the only one;
* `verdict_answered`    a client reads the result of an operation off its answer;
* `Transport.recorded`    a transport that keeps what it carries;
* `Agrees`, `calls_agree`    signed calls and reads do what the registry does.
-/

set_option linter.unusedSectionVars false

namespace PayChannel

/-! ## Verdicts -/

section
variable {α τ : Type}

theorem attempts_of_final {decode : Bytes → Except Json.Flaw α} {send : τ → Delivery × τ} {s : τ}
    {result : Except Failure α} (h : verdict decode (send s).1 = .final result)
    (policy : RetryPolicy) (pause : Bool → Nat → τ → τ) (spare attempt : Nat) :
    attempts policy decode send pause spare attempt s = (result, (send s).2) := by
  cases spare with
  | zero =>
    unfold attempts
    dsimp only
    rw [h]
  | succ spare =>
    unfold attempts
    dsimp only
    rw [h]

theorem attempts_of_again {decode : Bytes → Except Json.Flaw α} {send : τ → Delivery × τ} {s : τ}
    {isLost : Bool} {failure : Failure} (h : verdict decode (send s).1 = .again isLost failure)
    (policy : RetryPolicy) (pause : Bool → Nat → τ → τ) (spare attempt : Nat) :
    attempts policy decode send pause (spare + 1) attempt s
      = attempts policy decode send pause spare (attempt + 1)
          (pause isLost (policy.backoff attempt) (send s).2) := by
  rw [attempts]
  dsimp only
  rw [h]

theorem submit_of_final {S : SignatureScheme} {T : Transport τ}
    {decode : Bytes → Except Json.Flaw α} {route : SignedRoute} {body : Bytes} {c : Client} {s : τ}
    {result : Except Failure α}
    (h : verdict decode (Client.post S T route.path body (c, s)).1 = .final result) :
    Client.submit S T decode route body c s
      = (result, (Client.post S T route.path body (c, s)).2) :=
  attempts_of_final h c.policy _ _ _

theorem query_of_final {T : Transport τ} {decode : Bytes → Except Json.Flaw α} {path : String}
    {c : Client} {s : τ} {result : Except Failure α}
    (h : verdict decode (T.get path s).1 = .final result) :
    c.query T decode path s = (result, (T.get path s).2) :=
  attempts_of_final h c.policy _ _ _

def replyOf (response : Http.Response) : Delivery :=
  .ok ⟨response.status, response.body⟩

/-- a refusal has no status that is worth repeating, and its code tells it -/
theorem verdict_refused (decode : Bytes → Except Json.Flaw α) (refusal : Refusal) :
    verdict decode (replyOf (Service.refused refusal)) = .final (.error (.rejected refusal)) := by
  have hsuccess : isSuccess refusal.status = false := by cases refusal <;> rfl
  have hretry : isRetryable refusal.status = false := by cases refusal <;> rfl
  have hreply : Failure.ofReply ⟨refusal.status, (Service.refused refusal).body⟩
      = .rejected refusal := by
    have hcomplaint := Json.decode_write (α := Complaint) (by decide)
      (Complaint.mk refusal.code refusal.message)
    unfold Failure.ofReply Service.refused
    dsimp only
    rw [hcomplaint]
    dsimp only
    rw [Refusal.ofCode?_code]
  unfold verdict replyOf Service.refused
  dsimp only
  rw [hsuccess, hretry, if_neg Bool.false_ne_true, if_neg Bool.false_ne_true]
  exact congrArg (fun failure => Verdict.final (.error failure)) hreply

theorem verdict_success {decode : Bytes → Except Json.Flaw α} {body : Bytes} {a : α}
    (h : decode body = .ok a) (isJson : Bool) :
    verdict decode (replyOf ⟨200, isJson, body⟩) = .final (.ok a) := by
  have hsuccess : isSuccess 200 = true := rfl
  unfold verdict replyOf
  dsimp only
  rw [if_pos hsuccess, h]
  rfl

theorem verdict_answered {write : α → Bytes} {decode : Bytes → Except Json.Flaw α}
    (hdecode : ∀ a, decode (write a) = .ok a)
    {result : Except Refusal α × Registry BalanceSheet} {answer : Http.Response × Service}
    (h : Service.Answered write result answer) :
    verdict decode (replyOf answer.1) = .final (result.1.mapError .rejected) := by
  rw [h.response]
  cases result.1 with
  | ok a => exact verdict_success (hdecode a) true
  | error refusal => exact verdict_refused decode refusal

end

/-! ## Transports -/

def Transport.recorded {σ : Type} (T : Transport σ) : Transport (σ × List Http.Request) where
  get path s :=
    let (delivery, t) := T.get path s.1
    (delivery, t, s.2 ++ [getRequest path])
  post path headers body s :=
    let (delivery, t) := T.post path headers body s.1
    (delivery, t, s.2 ++ [postRequest path headers body])
  reconnect s :=
    let (result, t) := T.reconnect s.1
    (result, t, s.2)
  wait duration s := (T.wait duration s.1, s.2)
  now s :=
    let (now, t) := T.now s.1
    (now, t, s.2)

/-- the transport to an embedded service whose clock may change while a client works: `clock` is
what the client reads, and what the clock shows when the request arrives -/
def Embedded.transportAt (S : SignatureScheme) (clock : Embedded → Millis × Millis) :
    Transport Embedded :=
  { Embedded.transport S with now := fun e => ((clock e).1, { e with now := (clock e).2 }) }

example (S : SignatureScheme) :
    Embedded.transportAt S (fun e => (e.now, e.now)) = Embedded.transport S := rfl

/-! ## Signed calls -/

section
variable {α : Type} (S : SignatureScheme) (clock : Embedded → Millis × Millis) (c : Client)
  (e : Embedded)

/-- the next message of the client may be let in when it arrives -/
def NextAcceptable (q : SignedRequest) : Prop :=
  Acceptable S e.service (clock e).2 c (c.nextTimestamp (clock e).1).1 q

/-- a call does what an operation of the registry does: the client gets its result, the registry
comes to be the one that it leaves, and one request is sent -/
structure Agrees (q : SignedRequest)
    (call : {σ : Type} → Transport σ → σ → Except Failure α × Client × σ)
    (direct : Except Refusal α × Registry BalanceSheet) : Prop where
  result : (call (Embedded.transportAt S clock) e).1 = direct.1.mapError .rejected
  registry : (call (Embedded.transportAt S clock) e).2.2.service.registry = direct.2
  requests : ∀ log, call (Embedded.transportAt S clock).recorded (e, log)
    = let (result, c', e') := call (Embedded.transportAt S clock) e
      (result, c', e', log ++ [c.message S (c.nextTimestamp (clock e).1).1 q q.route])

theorem post_eq (q : SignedRequest) :
    Client.post S (Embedded.transportAt S clock) q.route.path q.body (c, e)
      = let (timestamp, c') := c.nextTimestamp (clock e).1
        let (response, service) :=
          e.service.handle S (clock e).2 (c.message S timestamp q q.route)
        (replyOf response, c', { service, now := (clock e).2 }) := rfl

theorem post_recorded (q : SignedRequest) (log : List Http.Request) :
    Client.post S (Embedded.transportAt S clock).recorded q.route.path q.body (c, e, log)
      = let (delivery, c', e') :=
          Client.post S (Embedded.transportAt S clock) q.route.path q.body (c, e)
        (delivery, c', e', log ++ [c.message S (c.nextTimestamp (clock e).1).1 q q.route]) := rfl

variable {S clock c e}

/-- a call that is let in agrees with the operation whose result the service answers -/
theorem agrees_of_answered {q : SignedRequest} {write : α → Bytes}
    {decode : Bytes → Except Json.Flaw α} (hdecode : ∀ a, decode (write a) = .ok a)
    {direct : Except Refusal α × Registry BalanceSheet} (h : NextAcceptable S clock c e q)
    (hfits : q.SignatureFits)
    (hanswered : ∀ s : Service, s.registry = e.service.registry →
      Service.Answered write direct (s.perform S (c.account S) q.body q.route)) :
    Agrees S clock c e q (fun T => Client.submit S T decode q.route q.body c) direct := by
  obtain ⟨replay, hhandle⟩ := Service.handle_message h hfits
  have hanswer := hanswered { e.service with replay } rfl
  rw [← hhandle] at hanswer
  have hverdict : verdict decode
      (Client.post S (Embedded.transportAt S clock) q.route.path q.body (c, e)).1
        = .final (direct.1.mapError .rejected) := by
    rw [post_eq]
    exact verdict_answered hdecode hanswer
  have hcall := submit_of_final hverdict
  refine ⟨?_, ?_, fun log => ?_⟩
  · rw [hcall]
  · rw [hcall, post_eq]
    exact hanswer.registry
  · have hrecorded : verdict decode
        (Client.post S (Embedded.transportAt S clock).recorded q.route.path q.body (c, e, log)).1
          = .final (direct.1.mapError .rejected) := by
      rw [post_recorded]
      exact hverdict
    rw [hcall, submit_of_final hrecorded, post_recorded]

end

/-! ## Reads -/

section
variable {α : Type} {S : SignatureScheme} {clock : Embedded → Millis × Millis} {c : Client}
  {e : Embedded}

theorem query_eq {path : String} {route : Route} {decode : Bytes → Except Json.Flaw α}
    {result : Except Failure α}
    (hpath : Route.ofPath? (Http.path (Bytes.ofString path)) = some route)
    (hread : ∀ signed, route ≠ .signed signed)
    (hverdict : verdict decode (replyOf (e.service.query route)) = .final result) :
    c.query (Embedded.transportAt S clock) decode path e = (result, e) := by
  have hget : (Embedded.transportAt S clock).get path e
      = (replyOf (e.service.query route), e) := by
    show Embedded.exchange S (Transport.getRequest path) e = _
    unfold Embedded.exchange
    rw [Service.handle_get S e.service e.now hpath hread]
    rfl
  have hfinal : verdict decode ((Embedded.transportAt S clock).get path e).1 = .final result := by
    rw [hget]
    exact hverdict
  rw [query_of_final hfinal, hget]

theorem health_eq :
    Client.health (Embedded.transportAt S clock) c e
      = (.ok ⟨"ok", e.service.registry.height⟩, e) :=
  query_eq Route.ofPath?_health (fun _ h => nomatch h)
    (verdict_success (Json.decode_write (by decide) _) true)

theorem statistics_eq :
    Client.statistics (Embedded.transportAt S clock) c e
      = (.ok e.service.registry.statistics, e) :=
  query_eq Route.ofPath?_statistics (fun _ h => nomatch h)
    (verdict_success (Json.decodeList_writeList (by decide) _) true)

theorem holdings_eq (account : Account) :
    Client.holdings (Embedded.transportAt S clock) account c e
      = (.ok (e.service.holdings account), e) := by
  refine query_eq (Route.ofPath?_holdings account) (fun _ h => nomatch h) ?_
  unfold Service.query
  dsimp only
  rw [Route.account?_encode]
  exact verdict_success (Json.decode_write (by decide) _) true

theorem forEnds_encode (ends : Ends) (answer : Ends → Http.Response) :
    Service.forEnds (Hex.encode ends.sender.bytes) (Hex.encode ends.receiver.bytes) answer
      = answer ends := by
  unfold Service.forEnds
  rw [Route.account?_encode, Route.account?_encode]

theorem session_eq (ends : Ends) :
    Client.session (Embedded.transportAt S clock) ends c e
      = (.ok (e.service.session ends), e) := by
  refine query_eq (Route.ofPath?_session ends) (fun _ h => nomatch h) ?_
  unfold Service.query
  dsimp only
  rw [forEnds_encode]
  exact verdict_success (Json.decode_write (by decide) _) true

theorem query_channel (s : Service) (ends : Ends) :
    s.query (.channel (Hex.encode ends.sender.bytes) (Hex.encode ends.receiver.bytes))
      = (s.registry.channel? ends).elim (Service.refused .notFound) Service.respond := by
  unfold Service.query
  dsimp only
  rw [forEnds_encode]
  cases s.registry.channel? ends with
  | none => rfl
  | some channel => rfl

/-- a channel that is not there is refused, which the client takes for the answer -/
theorem channel?_eq (ends : Ends) :
    Client.channel? (Embedded.transportAt S clock) ends c e
      = (.ok (e.service.registry.channel? ends), e) := by
  have hread : ∀ {result : Except Failure Channel},
      verdict (Json.decode Channel) (replyOf (e.service.query
        (.channel (Hex.encode ends.sender.bytes) (Hex.encode ends.receiver.bytes))))
          = .final result →
      c.query (Embedded.transportAt S clock) (Json.decode Channel) (Client.channelPath ends) e
        = (result, e) :=
    query_eq (Route.ofPath?_channel ends) (fun _ h => nomatch h)
  unfold Client.channel?
  rw [query_channel] at hread
  cases hchannel : e.service.registry.channel? ends with
  | none =>
    rw [hchannel] at hread
    rw [hread (verdict_refused _ .notFound)]
  | some channel =>
    rw [hchannel] at hread
    rw [hread (verdict_success (Json.decode_write (by decide) channel) true)]

end

/-! ## All calls -/

/-- a client does over the service what the registry does when it is asked directly, in the client's
name: each signed call that may be let in, and each read at any time -/
theorem calls_agree (S : SignatureScheme) (clock : Embedded → Millis × Millis) (c : Client)
    (e : Embedded) :
    let T := Embedded.transportAt S clock
    let registry := e.service.registry
    let account := c.account S
    (∀ receiver amount duration,
      let q := SignedRequest.openChannel ⟨account, receiver, amount, duration⟩
      NextAcceptable S clock c e q →
        Agrees S clock c e q (fun T => Client.openChannel S T receiver amount duration c)
          (registry.openChannel account receiver amount duration)) ∧
    (∀ receiver amount,
      let q := SignedRequest.addBalance ⟨account, receiver, amount⟩
      NextAcceptable S clock c e q →
        Agrees S clock c e q (fun T => Client.addBalance S T receiver amount c)
          (registry.addBalance account receiver amount)) ∧
    (∀ sender voucher, voucher.signature.length = signatureLength →
      let q := SignedRequest.claim
        ⟨sender, account, voucher.sessionId, voucher.amount, voucher.signature⟩
      NextAcceptable S clock c e q →
        Agrees S clock c e q (fun T => Client.claim S T sender voucher c)
          (registry.claimVoucher S sender account voucher)) ∧
    (∀ ends,
      let q := SignedRequest.closeChannel ⟨ends.sender, ends.receiver⟩
      NextAcceptable S clock c e q →
        Agrees S clock c e q (fun T => Client.closeChannel S T ends c)
          (registry.closeChannel account ends.sender ends.receiver)) ∧
    (NextAcceptable S clock c e (.closeExpired ⟨account⟩) →
      Agrees S clock c e (.closeExpired ⟨account⟩) (fun T => Client.closeExpired S T c)
        ((registry.closeExpired account).map .ok id)) ∧
    (∀ ends, Client.channel? T ends c e = (.ok (registry.channel? ends), e)) ∧
    (∀ ends, Client.session T ends c e
      = (.ok ⟨registry.lastSession ends, registry.nextNonce ends⟩, e)) ∧
    (∀ other, Client.holdings T other c e
      = (.ok ⟨other, registry.ledger.free other, registry.totalLocked other⟩, e)) ∧
    Client.statistics T c e = (.ok registry.statistics, e) ∧
    Client.health T c e = (.ok ⟨"ok", registry.height⟩, e) := by
  intro T registry account
  refine ⟨?_, ?_, ?_, ?_, ?_, channel?_eq, session_eq, holdings_eq, statistics_eq, health_eq⟩
  · intro receiver amount duration q h
    refine agrees_of_answered (Json.decode_write (α := Channel) (by decide)) h trivial
      fun s hs => ?_
    show Service.Answered _ (e.service.registry.openChannel account receiver amount duration) _
    rw [← hs]
    exact s.answered_openChannel S ⟨account, receiver, amount, duration⟩
  · intro receiver amount q h
    refine agrees_of_answered (Json.decode_write (α := Channel) (by decide)) h trivial
      fun s hs => ?_
    show Service.Answered _ (e.service.registry.addBalance account receiver amount) _
    rw [← hs]
    exact s.answered_addBalance S ⟨account, receiver, amount⟩
  · intro sender voucher hlength q h
    refine agrees_of_answered (Json.decode_write (α := Receipt) (by decide)) h hlength.le
      fun s hs => ?_
    show Service.Answered _ (e.service.registry.claimVoucher S sender account voucher) _
    rw [← hs]
    exact s.answered_claim S
      ⟨sender, account, voucher.sessionId, voucher.amount, voucher.signature⟩ hlength
  · intro ends q h
    refine agrees_of_answered (Json.decode_write (α := Closing) (by decide)) h trivial
      fun s hs => ?_
    show Service.Answered _ (e.service.registry.closeChannel account ends.sender ends.receiver) _
    rw [← hs]
    exact s.answered_closeChannel S ⟨ends.sender, ends.receiver⟩ account
  · intro h
    refine agrees_of_answered (Json.decodeList_writeList (α := Closing) (by decide)) h trivial
      fun s hs => ?_
    show Service.Answered _ ((e.service.registry.closeExpired account).map .ok id) _
    rw [← hs]
    exact s.answered_closeExpired S ⟨account⟩

/-- a voucher over 7 is paid over the service as it is by the registry, at the first of four attempts, by
a clock that moves on before the request arrives -/
theorem calls_agree_paid :
    let payer : Secret := ⟨List.replicate 32 1, by decide⟩
    let payee : Secret := ⟨List.replicate 32 2, by decide⟩
    let ends : Ends := ⟨ed25519.account payer, ed25519.account payee⟩
    let voucher := ed25519.voucher payer ends.receiver Word.zero Word.one ⟨7, by decide⟩
    let c := Client.start payee .standard
    let e : Embedded := ⟨Service.withChannel ed25519 ends, Word.one⟩
    let clock := fun e : Embedded => (e.now, e.now.satAdd Word.one)
    let q := SignedRequest.claim
      ⟨ends.sender, c.account ed25519, voucher.sessionId, voucher.amount, voucher.signature⟩
    let direct :=
      e.service.registry.claimVoucher ed25519 ends.sender (c.account ed25519) voucher
    voucher.signature.length = signatureLength ∧ NextAcceptable ed25519 clock c e q ∧
      Agrees ed25519 clock c e q (fun T => Client.claim ed25519 T ends.sender voucher c) direct ∧
      direct.1.toOption.map Receipt.remaining = some ⟨33, by decide⟩ := by
  intro payer payee ends voucher c e clock q direct
  have hfresh : ∀ (window now : Millis) (signature : Bytes),
      (ReplayCache.empty.prune window now).seen.get? signature = none := fun _ _ _ => rfl
  have hlength : voucher.signature.length = signatureLength := ed25519.length_sign _ _
  have hnext : NextAcceptable ed25519 clock c e q :=
    ⟨by decide +kernel, by decide +kernel, hfresh _ _ _⟩
  refine ⟨hlength, hnext, ?_, by decide +kernel⟩
  exact (calls_agree ed25519 clock c e).2.2.1 ends.sender voucher hlength hnext

end PayChannel
