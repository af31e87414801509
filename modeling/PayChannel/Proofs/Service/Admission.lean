import Mathlib
import PayChannel.Client.Calls
import PayChannel.Proofs.Registry.Run
import PayChannel.Service.Handler

/-!
# What a request can do to a service

A request changes the registry only if it gets through everything in its way: its path, its headers,
its signature, the replay cache, its method, its decoding and the check against its signer.  Then it
has the registry perform one operation, which is told from the body.

* `SignedRequest`    a request of one of the five kinds, as one type;
* `TellsFailure`    the statuses of failures;
* `perform_cases`    a signed operation fails and says so, or the registry performs it;
* `Presented`    what headers say that pass their checks;
* `Admitted`, `handle_cases`    a whole request is harmless, or it was admitted and performed.
-/

set_option linter.unusedSectionVars false

namespace PayChannel

open Http

/-- what one of the five signed routes is asked for -/
inductive SignedRequest where
  | openChannel (q : OpenRequest)
  | addBalance (q : FundRequest)
  | claim (q : ClaimRequest)
  | closeChannel (q : CloseRequest)
  | closeExpired (q : CloseExpiredRequest)
deriving DecidableEq

namespace SignedRequest

def route : SignedRequest → SignedRoute
  | openChannel _ => .openChannel
  | addBalance _ => .addBalance
  | claim _ => .claim
  | closeChannel _ => .closeChannel
  | closeExpired _ => .closeExpired

def body : SignedRequest → Bytes
  | openChannel q => Json.write q
  | addBalance q => Json.write q
  | claim q => Json.write q
  | closeChannel q => Json.write q
  | closeExpired q => Json.write q

def check (signer : Account) : SignedRequest → Except Refusal Unit
  | openChannel q => q.check signer
  | addBalance q => q.check signer
  | claim q => q.check signer
  | closeChannel q => q.check signer
  | closeExpired q => q.check signer

def operation (signer : Account) : SignedRequest → Operation
  | openChannel q => .openChannel q.sender q.receiver q.amount q.duration
  | addBalance q => .addBalance q.sender q.receiver q.amount
  | claim q => .claim q.sender q.receiver q.sessionId q.amount q.signature
  | closeChannel q => .closeChannel signer q.sender q.receiver
  | closeExpired q => .closeExpired q.caller

def decode (body : Bytes) : SignedRoute → Except Json.Flaw SignedRequest
  | .openChannel => (Json.decodeStart OpenRequest body).map .openChannel
  | .addBalance => (Json.decodeStart FundRequest body).map .addBalance
  | .claim => (Json.decodeStart ClaimRequest body).map .claim
  | .closeChannel => (Json.decodeStart CloseRequest body).map .closeChannel
  | .closeExpired => (Json.decodeStart CloseExpiredRequest body).map .closeExpired

end SignedRequest

/-- what a client sends when it signs a request and posts it to a route, the right one or another -/
def Client.message (c : Client) (S : SignatureScheme) (timestamp : Millis) (q : SignedRequest)
    (route : SignedRoute) : Request :=
  Transport.postRequest route.path (c.signedHeaders S timestamp q.body) q.body

/-- the status is no success, and no reason to ask again -/
structure TellsFailure (status : Nat) : Prop where
  not_success : isSuccess status = false
  not_retryable : isRetryable status = false

theorem Denial.tellsFailure (denial : Denial) : TellsFailure denial.status := by
  cases denial <;> exact ⟨rfl, rfl⟩

theorem Refusal.tellsFailure (refusal : Refusal) : TellsFailure refusal.status := by
  cases refusal <;> exact ⟨rfl, rfl⟩

namespace Service

/-- a signed operation has been performed: the body was read, the signer may ask this, and the
registry did it; unless it refused, the answer is a success -/
structure Performed (S : SignatureScheme) (s : Service) (signer : Account) (body : Bytes)
    (route : SignedRoute) (q : SignedRequest) (response : Response) (s' : Service) : Prop where
  decoded : SignedRequest.decode body route = .ok q
  checked : q.check signer = .ok ()
  registry : s'.registry = (s.registry.perform S (q.operation signer)).2
  status : (∃ refusal, (s.registry.perform S (q.operation signer)).1 = .refused refusal) ∨
    response.status = 200

theorem withRequest_cases {α : Type} [Json.Record α] (s : Service) (body : Bytes)
    (check : α → Except Refusal Unit) (perform : α → Response × Service) :
    (TellsFailure (s.withRequest body check perform).1.status ∧
      (s.withRequest body check perform).2 = s) ∨
      ∃ q, Json.decodeStart α body = .ok q ∧ check q = .ok () ∧
        s.withRequest body check perform = perform q := by
  unfold withRequest
  cases hd : Json.decodeStart α body with
  | error flaw => cases flaw <;> exact .inl ⟨⟨rfl, rfl⟩, rfl⟩
  | ok q =>
    cases hc : check q with
    | error refusal =>
      left
      simp only [hc]
      exact ⟨refusal.tellsFailure, trivial⟩
    | ok u => exact .inr ⟨q, rfl, hc, by simp only [hc]⟩

/-- an operation that may be refused; `wrap` and `accepted` say which kind of request and of answer
it deals with -/
theorem outcome_cases {α β : Type} [Json.Record α] [Json.Record β] {S : SignatureScheme}
    {s : Service} {signer : Account} {body : Bytes} {route : SignedRoute}
    (wrap : α → SignedRequest) (accepted : β → Answer)
    (ask : α → Except Refusal β × Registry BalanceSheet)
    (hdecode : SignedRequest.decode body route = (Json.decodeStart α body).map wrap)
    (hask : ∀ q, s.registry.perform S ((wrap q).operation signer)
      = (ask q).map (Answer.ofResult accepted) id)
    (haccepted : ∀ b refusal, accepted b ≠ .refused refusal)
    (hperform : s.perform S signer body route
      = s.withRequest body (fun q => (wrap q).check signer) fun q => s.outcome (ask q)) :
    let answer := s.perform S signer body route
    (TellsFailure answer.1.status ∧ answer.2 = s) ∨
      ∃ q, Performed S s signer body route q answer.1 answer.2 ∧
        (TellsFailure answer.1.status ∨
          ∀ refusal, (s.registry.perform S (q.operation signer)).1 ≠ .refused refusal) := by
  dsimp only
  rw [hperform]
  refine (s.withRequest_cases body _ _).imp id ?_
  rintro ⟨q, hd, hc, hp⟩
  have hdecoded : SignedRequest.decode body route = .ok (wrap q) := by
    rw [hdecode, hd]
    rfl
  rw [hp]
  have hdirect := hask q
  rcases hresult : ask q with ⟨refusal | b, registry⟩
  · rw [hresult] at hdirect
    refine ⟨wrap q, ⟨hdecoded, hc, ?_, .inl ⟨refusal, ?_⟩⟩, .inl refusal.tellsFailure⟩
    · rw [hdirect]
      rfl
    · rw [hdirect]
      rfl
  · rw [hresult] at hdirect
    refine ⟨wrap q, ⟨hdecoded, hc, ?_, .inr rfl⟩, .inr ?_⟩
    · rw [hdirect]
      rfl
    · rw [hdirect]
      exact haccepted b

/-- a signed operation fails and says so, or the registry performs it, and a failure status tells if
that is refused -/
theorem perform_cases (S : SignatureScheme) (s : Service) (signer : Account) (body : Bytes)
    (route : SignedRoute) :
    let answer := s.perform S signer body route
    (TellsFailure answer.1.status ∧ answer.2 = s) ∨
      ∃ q, Performed S s signer body route q answer.1 answer.2 ∧
        (TellsFailure answer.1.status ∨
          ∀ refusal, (s.registry.perform S (q.operation signer)).1 ≠ .refused refusal) := by
  cases route with
  | openChannel =>
    exact outcome_cases .openChannel .opened
      (fun q => s.registry.openChannel q.sender q.receiver q.amount q.duration)
      rfl (fun _ => rfl) (by rintro b refusal ⟨⟩) rfl
  | addBalance =>
    exact outcome_cases .addBalance .funded
      (fun q => s.registry.addBalance q.sender q.receiver q.amount)
      rfl (fun _ => rfl) (by rintro b refusal ⟨⟩) rfl
  | claim =>
    exact outcome_cases .claim .redeemed
      (fun q => s.registry.claim S q.sender q.receiver q.sessionId q.amount q.signature)
      rfl (fun _ => rfl) (by rintro b refusal ⟨⟩) rfl
  | closeChannel =>
    exact outcome_cases .closeChannel (fun closing => .closed [closing])
      (fun q => s.registry.closeChannel signer q.sender q.receiver)
      rfl (fun _ => rfl) (by rintro b refusal ⟨⟩) rfl
  | closeExpired =>
    refine (s.withRequest_cases body (fun q : CloseExpiredRequest => q.check signer) _).imp id ?_
    rintro ⟨q, hd, hc, hp⟩
    have hdecoded : SignedRequest.decode body .closeExpired = .ok (.closeExpired q) := by
      rw [SignedRequest.decode, hd]
      rfl
    refine ⟨.closeExpired q, ⟨hdecoded, hc, ?_, .inr ?_⟩, .inr (by rintro refusal ⟨⟩)⟩
    · rw [perform, hp]
      rfl
    · rw [perform, hp]
      rfl

/-! ## Credentials -/

/-- the headers of a request say who signed it when, and the clock agrees -/
structure Presented (window now : Millis) (headers : List Header) (credentials : Credentials) :
    Prop where
  signer : ∃ value, header? headers Auth.signerHeader = some value ∧
    Account.ofText value = .ok credentials.signer
  timestamp : ∃ value, header? headers Auth.timestampHeader = some value ∧
    Decimal.parseWord? 64 value = some credentials.timestamp
  signature : ∃ value, header? headers Auth.signatureHeader = some value ∧
    Hex.decode (Hex.dropMarks value) = .ok credentials.signature
  length : credentials.signature.length = signatureLength
  near : now.distance credentials.timestamp ≤ window.val

theorem required_eq_ok {headers : List Header} {name : String} {value : Bytes}
    (h : Auth.required headers name = .ok value) : header? headers name = some value := by
  unfold Auth.required at h
  split at h
  · cases h
  · rename_i found hfound
    split at h
    · cases h
      exact hfound
    · cases h

theorem readSigner_eq_ok {headers : List Header} {signer : Account}
    (h : Auth.readSigner headers = .ok signer) :
    ∃ value, header? headers Auth.signerHeader = some value ∧ Account.ofText value = .ok signer := by
  unfold Auth.readSigner at h
  split at h
  · cases h
  · rename_i value hvalue
    split at h
    · cases h
    · rename_i found hfound
      cases h
      exact ⟨value, required_eq_ok hvalue, hfound⟩

theorem readTimestamp_eq_ok {headers : List Header} {timestamp : Millis}
    (h : Auth.readTimestamp headers = .ok timestamp) :
    ∃ value, header? headers Auth.timestampHeader = some value ∧
      Decimal.parseWord? 64 value = some timestamp := by
  unfold Auth.readTimestamp at h
  split at h
  · cases h
  · rename_i value hvalue
    split at h
    · cases h
    · rename_i found hfound
      cases h
      exact ⟨value, required_eq_ok hvalue, hfound⟩

theorem readSignature_eq_ok {headers : List Header} {signature : Bytes}
    (h : Auth.readSignature headers = .ok signature) :
    (∃ value, header? headers Auth.signatureHeader = some value ∧
      Hex.decode (Hex.dropMarks value) = .ok signature) ∧ signature.length = signatureLength := by
  unfold Auth.readSignature at h
  split at h
  · cases h
  · rename_i value hvalue
    split at h
    · cases h
    · rename_i found hfound
      split at h
      · rename_i hlength
        cases h
        exact ⟨⟨value, required_eq_ok hvalue, hfound⟩, hlength⟩
      · cases h

theorem presented_of_checkHeaders {window now : Millis} {headers : List Header}
    {credentials : Credentials} (h : Auth.checkHeaders window now headers = .ok credentials) :
    Presented window now headers credentials := by
  unfold Auth.checkHeaders Auth.readCredentials at h
  cases hsigner : Auth.readSigner headers with
  | error denial =>
    rw [hsigner] at h
    cases h
  | ok signer =>
    cases htimestamp : Auth.readTimestamp headers with
    | error denial =>
      rw [hsigner, htimestamp] at h
      cases h
    | ok timestamp =>
      cases hsignature : Auth.readSignature headers with
      | error denial =>
        rw [hsigner, htimestamp, hsignature] at h
        cases h
      | ok signature =>
        rw [hsigner, htimestamp, hsignature] at h
        dsimp only at h
        split at h
        · cases h
        · rename_i hnear
          split at h
          · cases h
          · cases h
            obtain ⟨hvalue, hlength⟩ := readSignature_eq_ok hsignature
            exact ⟨readSigner_eq_ok hsigner, readTimestamp_eq_ok htimestamp, hvalue, hlength,
              Nat.le_of_not_lt hnear⟩

/-! ## The way in -/

/-- a request is its signer's, and new -/
structure Authentic (S : SignatureScheme) (s : Service) (now : Millis) (request : Request)
    (credentials : Credentials) : Prop where
  size : request.body.length ≤ Auth.maxBody
  verified : S.verifyRequest credentials.signer credentials.timestamp request.body
    credentials.signature = true
  fresh : (s.replay.prune s.window now).seen.get? credentials.signature = none

/-- a request has got as far as its operation -/
structure Admitted (S : SignatureScheme) (s : Service) (now : Millis) (request : Request)
    (route : SignedRoute) (credentials : Credentials) : Prop where
  path : Route.ofPath? (path request.target) = some (.signed route)
  presented : Presented s.window now request.headers credentials
  authentic : Authentic S s now request credentials
  method : request.method = "POST"

theorem authenticate_cases (S : SignatureScheme) (s : Service) (now : Millis)
    (credentials : Credentials) (request : Request) :
    (∃ denial replay, Auth.authenticate S s.replay s.window now credentials request.body
      = (.error denial, replay)) ∨
    (∃ replay, Auth.authenticate S s.replay s.window now credentials request.body
        = (.ok credentials.signer, replay) ∧ Authentic S s now request credentials) := by
  unfold Auth.authenticate
  by_cases hsize : Auth.maxBody < request.body.length
  · exact .inl ⟨_, _, if_pos hsize⟩
  rw [if_neg hsize]
  cases hv : S.verifyRequest credentials.signer credentials.timestamp request.body
      credentials.signature with
  | false => exact .inl ⟨.invalidSignature, s.replay, rfl⟩
  | true =>
    unfold ReplayCache.check
    dsimp only
    by_cases hseen : (s.replay.prune s.window now).seen.contains credentials.signature = true
    · rw [if_pos hseen]
      exact .inl ⟨.replayed, _, rfl⟩
    · rw [if_neg hseen]
      refine .inr ⟨_, rfl, Nat.le_of_not_lt hsize, hv, ?_⟩
      unfold Table.contains at hseen
      rw [Option.not_isSome_iff_eq_none] at hseen
      exact hseen

/-- finishing a request fails and says so, with the registry as it was, or performs an operation that
is authentic, and a failure status tells if that is refused -/
theorem finish_cases (S : SignatureScheme) (s : Service) (now : Millis) (credentials : Credentials)
    (route : SignedRoute) (request : Request) :
    let answer := s.finish S now credentials route request
    (TellsFailure answer.1.status ∧ answer.2.registry = s.registry) ∨
    (Authentic S s now request credentials ∧ request.method = "POST" ∧
      ∃ q, Performed S s credentials.signer request.body route q answer.1 answer.2 ∧
        (TellsFailure answer.1.status ∨
          ∀ refusal, (s.registry.perform S (q.operation credentials.signer)).1 ≠ .refused refusal)) := by
  unfold finish
  rcases s.authenticate_cases S now credentials request with
    ⟨denial, replay, ha⟩ | ⟨replay, ha, hauthentic⟩
  · rw [ha]
    exact .inl ⟨denial.tellsFailure, rfl⟩
  · rw [ha]
    dsimp only
    by_cases hmethod : request.method ≠ "POST"
    · rw [if_pos hmethod]
      exact .inl ⟨⟨rfl, rfl⟩, rfl⟩
    rw [if_neg hmethod]
    by_cases hjson : (!saysJson request.headers) = true
    · rw [if_pos hjson]
      exact .inl ⟨⟨rfl, rfl⟩, rfl⟩
    rw [if_neg hjson]
    rcases ({ s with replay } : Service).perform_cases S credentials.signer request.body route with
      ⟨hfailed, hsame⟩ | ⟨q, hq, htold⟩
    · exact .inl ⟨hfailed, by rw [hsame]⟩
    · exact .inr ⟨hauthentic, Classical.not_not.mp hmethod, q,
        ⟨hq.decoded, hq.checked, hq.registry, hq.status⟩, htold⟩

theorem arrive_eq_waiting_iff (s : Service) (now : Millis) (request : Request)
    (credentials : Credentials) (route : SignedRoute) :
    s.arrive now request = .waiting credentials route ↔
      Route.ofPath? (path request.target) = some (.signed route) ∧
        Auth.checkHeaders s.window now request.headers = .ok credentials := by
  unfold arrive
  cases hroute : Route.ofPath? (path request.target) with
  | none => simp
  | some found =>
    cases found with
    | signed r =>
      cases hheaders : Auth.checkHeaders s.window now request.headers with
      | error denial => simp
      | ok c => simp [and_comm]
    | health | statistics | holdings | channel | session =>
      dsimp only
      split
      · simp
      · split <;> simp

theorem handle_cases (S : SignatureScheme) (s : Service) (now : Millis) (request : Request) :
    (s.handle S now request).2.registry = s.registry ∨
    ∃ route credentials q, Admitted S s now request route credentials ∧
      Performed S s credentials.signer request.body route q (s.handle S now request).1
        (s.handle S now request).2 := by
  cases ha : s.arrive now request with
  | answered response =>
    left
    simp only [handle, ha]
  | waiting credentials route =>
    have hhandle : s.handle S now request = s.finish S now credentials route request := by
      simp only [handle, ha]
    obtain ⟨hpath, hheaders⟩ := (s.arrive_eq_waiting_iff now request credentials route).mp ha
    rw [hhandle]
    rcases s.finish_cases S now credentials route request with
      ⟨-, hsame⟩ | ⟨hauthentic, hmethod, q, hq, -⟩
    · exact .inl hsame
    · exact .inr ⟨route, credentials, q,
        ⟨hpath, presented_of_checkHeaders hheaders, hauthentic, hmethod⟩, hq⟩

end Service
end PayChannel
