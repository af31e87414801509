import PayChannel.Api.Json
import PayChannel.Http.MediaType
import PayChannel.Ledger.BalanceSheet
import PayChannel.Registry.Operations
import PayChannel.Service.Auth
import PayChannel.Service.Route

/-!
# The service

The service answers requests from the state it keeps: the registry over a balance sheet, the replay
cache, and how long a signed request stays fresh.

* `Service.query`    reads, which change nothing;
* `Service.perform`    the signed operations, for a signer that is known;
* `Service.arrive`, `Service.finish`    a request before its body is there, and after;
* `Service.handle`    a whole request, at a reading of the clock.
-/

namespace PayChannel

open Http

structure Service where
  registry : Registry BalanceSheet
  replay : ReplayCache
  ttl : Word 64

namespace Service

/-- a service over a ledger; signed requests stay fresh for `ttl` seconds -/
def start (ledger : BalanceSheet) (ttl : Word 64) : Service where
  registry := Registry.ofLedger ledger
  replay := ReplayCache.empty
  ttl := ttl

/-- how far a timestamp may be from the clock -/
def window (s : Service) : Millis :=
  s.ttl.satMul ⟨1000, by decide⟩

def withLedger (s : Service) (change : BalanceSheet → BalanceSheet) : Service :=
  { s with registry := { s.registry with ledger := change s.registry.ledger } }

/-! ## Responses -/

def respond {α : Type} [Json.Record α] (a : α) : Response :=
  ⟨200, true, Json.write a⟩

def respondList {α : Type} [Json.Record α] (records : List α) : Response :=
  ⟨200, true, Json.writeList records⟩

def refused (refusal : Refusal) : Response :=
  ⟨refusal.status, true, Json.write (Complaint.mk refusal.code refusal.message)⟩

def denied (denial : Denial) : Response :=
  ⟨denial.status, true, Json.write (Complaint.mk denial.code denial.message)⟩

/-! ## Reads -/

def holdings (s : Service) (account : Account) : Holdings where
  account := account
  free := s.registry.ledger.free account
  locked := s.registry.totalLocked account

def session (s : Service) (ends : Ends) : Session where
  lastClaimed := s.registry.lastSession ends
  nextNonce := s.registry.nextNonce ends

def forEnds (sender receiver : Bytes) (answer : Ends → Response) : Response :=
  match Route.account? sender, Route.account? receiver with
  | some sender, some receiver => answer ⟨sender, receiver⟩
  | _, _ => .bare 400

def query (s : Service) : Route → Response
  | .health => respond (Health.mk "ok" s.registry.height)
  | .statistics => respondList s.registry.statistics
  | .holdings account =>
    match Route.account? account with
    | some account => respond (s.holdings account)
    | none => .bare 400
  | .channel sender receiver =>
    forEnds sender receiver fun ends =>
      match s.registry.channel? ends with
      | some c => respond c
      | none => refused .notFound
  | .session sender receiver => forEnds sender receiver fun ends => respond (s.session ends)
  | .signed _ => .bare 405

/-! ## Signed operations -/

/-- the response to an operation that may have been refused, and the service after it -/
def outcome {α : Type} [Json.Record α] (s : Service)
    (result : Except Refusal α × Registry BalanceSheet) : Response × Service :=
  match result with
  | (.ok a, registry) => (respond a, { s with registry })
  | (.error refusal, registry) => (refused refusal, { s with registry })

/-- reads the request from a body, checks it against its signer, and goes on -/
def withRequest {α : Type} [Json.Record α] (s : Service) (body : Bytes)
    (check : α → Except Refusal Unit) (perform : α → Response × Service) : Response × Service :=
  match Json.decodeStart α body with
  | .error .unfit => (.bare 422, s)
  | .error _ => (.bare 400, s)
  | .ok q =>
    match check q with
    | .error refusal => (refused refusal, s)
    | .ok () => perform q

def perform (S : SignatureScheme) (s : Service) (signer : Account) (body : Bytes) :
    SignedRoute → Response × Service
  | .openChannel =>
    s.withRequest body (fun q : OpenRequest => q.check signer) fun q =>
      s.outcome (s.registry.openChannel q.sender q.receiver q.amount q.duration)
  | .addBalance =>
    s.withRequest body (fun q : FundRequest => q.check signer) fun q =>
      s.outcome (s.registry.addBalance q.sender q.receiver q.amount)
  | .claim =>
    s.withRequest body (fun q : ClaimRequest => q.check signer) fun q =>
      s.outcome (s.registry.claim S q.sender q.receiver q.sessionId q.amount q.signature)
  | .closeChannel =>
    s.withRequest body (fun q : CloseRequest => q.check signer) fun q =>
      s.outcome (s.registry.closeChannel signer q.sender q.receiver)
  | .closeExpired =>
    s.withRequest body (fun q : CloseExpiredRequest => q.check signer) fun q =>
      let (closings, registry) := s.registry.closeExpired q.caller
      (respondList closings, { s with registry })

def saysJson (headers : List Header) : Bool :=
  match header? headers "Content-Type" with
  | none => false
  | some value => isVisible value && MediaType.isJson value

/-! ## Requests -/

/-- what becomes of a request before its body is looked at -/
inductive Arrival where
  /-- it is answered at once, and changes nothing -/
  | answered (response : Response)
  /-- it waits for its body, to be finished as the operation of its route -/
  | waiting (credentials : Credentials) (route : SignedRoute)

/-- receives a request at time `now`, with its body still to come -/
def arrive (s : Service) (now : Millis) (request : Request) : Arrival :=
  match Route.ofPath? (path request.target) with
  | none => .answered (.bare 404)
  | some (.signed route) =>
    match Auth.checkHeaders s.window now request.headers with
    | .error denial => .answered (denied denial)
    | .ok credentials => .waiting credentials route
  | some route =>
    if request.method = "GET" then .answered (s.query route)
    else if request.method = "HEAD" then .answered { s.query route with body := [] }
    else .answered (.bare 405)

/-- finishes a request that has waited for its body; `now` is the time of its arrival -/
def finish (S : SignatureScheme) (s : Service) (now : Millis) (credentials : Credentials)
    (route : SignedRoute) (request : Request) : Response × Service :=
  match Auth.authenticate S s.replay s.window now credentials request.body with
  | (.error denial, replay) => (denied denial, { s with replay })
  | (.ok signer, replay) =>
    let s := { s with replay }
    if request.method ≠ "POST" then (.bare 405, s)
    else if !saysJson request.headers then (.bare 415, s)
    else s.perform S signer request.body route

/-- answers a request that arrives at time `now` with its body -/
def handle (S : SignatureScheme) (s : Service) (now : Millis) (request : Request) :
    Response × Service :=
  match s.arrive now request with
  | .answered response => (response, s)
  | .waiting credentials route => s.finish S now credentials route request

end Service
end PayChannel
