import Mathlib
import PayChannel.Proofs.Service.Answers
import PayChannel.Proofs.Service.Recall

/-!
# Requests that come one after the other

A service takes a request, answers it, and only then takes the next one; in between its registry may
change as it likes.  As long as the clock does not go back, the replay cache then denies a request
exactly if the same signature has been accepted before with a timestamp that is still inside the
window, however the headers spell it.

* `Auth.sighting?`    what the cache is told of a request, if it is told anything;
* `finish_replay`, `finish_eq_replayed_iff`    what the cache has to do with the end of a request;
* `Service.visits`    the requests of a service, each with the state it was taken in;
* `wrote_visits`    the rulings on them are the log of one cache;
* `Judged`, `judged_visits`    which of them are replays.
-/

set_option linter.unusedSectionVars false

namespace PayChannel

open Http

/-! ## What the cache is told -/

namespace Auth

/-- what the cache is told of a request whose headers were in order: nothing, if the body is too
long or the signature is not the signer's -/
def sighting? (S : SignatureScheme) (now : Millis) (credentials : Credentials) (body : Bytes) :
    Option Sighting :=
  if body.length ≤ maxBody ∧ S.verifyRequest credentials.signer credentials.timestamp body
      credentials.signature = true then
    some ⟨credentials.signature, credentials.timestamp, now⟩
  else none

theorem authenticate_of_unseen {S : SignatureScheme} {now : Millis} {credentials : Credentials}
    {body : Bytes} (h : sighting? S now credentials body = none) (cache : ReplayCache)
    (window : Millis) : ∃ denial, denial ≠ .replayed ∧
      authenticate S cache window now credentials body = (.error denial, cache) := by
  unfold authenticate
  by_cases hsize : maxBody < body.length
  · rw [if_pos hsize]
    exact ⟨.payloadTooLarge, by decide, rfl⟩
  · rw [if_neg hsize]
    cases hv : S.verifyRequest credentials.signer credentials.timestamp body
        credentials.signature with
    | false => exact ⟨.invalidSignature, by decide, rfl⟩
    | true =>
      unfold sighting? at h
      rw [if_pos ⟨Nat.le_of_not_lt hsize, hv⟩] at h
      cases h

theorem authenticate_of_seen {S : SignatureScheme} {now : Millis} {credentials : Credentials}
    {body : Bytes} {x : Sighting} (h : sighting? S now credentials body = some x)
    (cache : ReplayCache) (window : Millis) :
    authenticate S cache window now credentials body =
      (if (cache.ruling window x).accepted then .ok credentials.signer else .error .replayed,
        cache.see window x) := by
  unfold sighting? at h
  split at h
  · rename_i hpassed
    cases h
    unfold authenticate
    rw [if_neg (Nat.not_lt.mpr hpassed.1), hpassed.2, Bool.not_true, if_neg Bool.false_ne_true]
    unfold ReplayCache.ruling ReplayCache.see
    dsimp only
    cases cache.check window credentials.signature credentials.timestamp now with
    | mk accepted cache' => cases accepted <;> rfl
  · cases h

end Auth

/-! ## What an answer tells -/

namespace Service

theorem ne_replayed_of_success {response : Response} (h : response.status = 200) :
    response ≠ denied .replayed := by
  rintro rfl
  cases h

theorem bare_ne_replayed (status : Nat) : Response.bare status ≠ denied .replayed :=
  fun h => absurd (congrArg Response.isJson h) Bool.false_ne_true

/-- two refusals have the status of a replay, and other words -/
theorem refused_ne_replayed (refusal : Refusal) : refused refusal ≠ denied .replayed := by
  cases refusal <;> decide +kernel

theorem denied_eq_replayed_iff (denial : Denial) :
    denied denial = denied .replayed ↔ denial = .replayed := by
  cases denial <;> decide +kernel

/-- an answer is not that of a replay, and the service has the cache and the window that it had -/
structure Aside (s : Service) (answer : Response × Service) : Prop where
  response : answer.1 ≠ denied .replayed
  replay : answer.2.replay = s.replay
  ttl : answer.2.ttl = s.ttl

theorem aside_outcome {α : Type} [Json.Record α] (s : Service)
    (result : Except Refusal α × Registry BalanceSheet) : Aside s (s.outcome result) := by
  rcases result with ⟨refusal | a, registry⟩
  · exact ⟨refused_ne_replayed refusal, rfl, rfl⟩
  · exact ⟨ne_replayed_of_success rfl, rfl, rfl⟩

theorem aside_withRequest {α : Type} [Json.Record α] (s : Service) (body : Bytes)
    (check : α → Except Refusal Unit) {perform : α → Response × Service}
    (h : ∀ q, Aside s (perform q)) : Aside s (s.withRequest body check perform) := by
  unfold withRequest
  cases Json.decodeStart α body with
  | error flaw => cases flaw <;> exact ⟨bare_ne_replayed _, rfl, rfl⟩
  | ok q =>
    dsimp only
    cases check q with
    | error refusal => exact ⟨refused_ne_replayed refusal, rfl, rfl⟩
    | ok u => exact h q

theorem aside_perform (S : SignatureScheme) (s : Service) (signer : Account) (body : Bytes)
    (route : SignedRoute) : Aside s (s.perform S signer body route) := by
  cases route with
  | openChannel | addBalance | claim | closeChannel =>
    exact s.aside_withRequest body _ fun q => s.aside_outcome _
  | closeExpired =>
    exact s.aside_withRequest body _ fun q => ⟨ne_replayed_of_success rfl, rfl, rfl⟩

/-! ## The end of a request -/

section
variable {S : SignatureScheme} {now : Millis} {credentials : Credentials} {request : Request}

theorem aside_finish (h : Auth.sighting? S now credentials request.body = none) (s : Service)
    (route : SignedRoute) : Aside s (s.finish S now credentials route request) := by
  obtain ⟨denial, hne, ha⟩ := Auth.authenticate_of_unseen h s.replay s.window
  unfold finish
  rw [ha]
  exact ⟨fun heq => hne ((denied_eq_replayed_iff denial).mp heq), rfl, rfl⟩

/-- a request that the cache has ruled on is denied as a replay, or it goes on without the cache -/
theorem finish_of_seen {x : Sighting} (h : Auth.sighting? S now credentials request.body = some x)
    (s : Service) (route : SignedRoute) :
    ((s.replay.ruling s.window x).accepted = false ∧
      s.finish S now credentials route request =
        (denied .replayed, { s with replay := s.replay.see s.window x })) ∨
    ((s.replay.ruling s.window x).accepted = true ∧
      Aside { s with replay := s.replay.see s.window x }
        (s.finish S now credentials route request)) := by
  unfold finish
  rw [Auth.authenticate_of_seen h]
  cases (s.replay.ruling s.window x).accepted with
  | false => exact .inl ⟨rfl, rfl⟩
  | true =>
    rw [if_pos rfl]
    refine .inr ⟨rfl, ?_⟩
    dsimp only
    by_cases hmethod : request.method ≠ "POST"
    · rw [if_pos hmethod]
      exact ⟨bare_ne_replayed _, rfl, rfl⟩
    rw [if_neg hmethod]
    by_cases hjson : (!saysJson request.headers) = true
    · rw [if_pos hjson]
      exact ⟨bare_ne_replayed _, rfl, rfl⟩
    rw [if_neg hjson]
    exact aside_perform S _ credentials.signer request.body route

theorem finish_replay {x : Sighting} (h : Auth.sighting? S now credentials request.body = some x)
    (s : Service) (route : SignedRoute) :
    (s.finish S now credentials route request).2.replay = s.replay.see s.window x := by
  rcases finish_of_seen h s route with ⟨-, hfinish⟩ | ⟨-, haside⟩
  · rw [hfinish]
  · exact haside.replay

theorem finish_eq_replayed_iff {x : Sighting}
    (h : Auth.sighting? S now credentials request.body = some x) (s : Service)
    (route : SignedRoute) : (s.finish S now credentials route request).1 = denied .replayed ↔
      (s.replay.ruling s.window x).accepted = false := by
  rcases finish_of_seen h s route with ⟨hrefused, hfinish⟩ | ⟨haccepted, haside⟩
  · rw [hfinish]
    exact iff_of_true rfl hrefused
  · rw [haccepted]
    exact iff_of_false haside.response Bool.true_eq_false_eq_False

theorem finish_ttl (S : SignatureScheme) (s : Service) (now : Millis) (credentials : Credentials)
    (route : SignedRoute) (request : Request) :
    (s.finish S now credentials route request).2.ttl = s.ttl := by
  cases h : Auth.sighting? S now credentials request.body with
  | none => exact (aside_finish h s route).ttl
  | some x =>
    rcases finish_of_seen h s route with ⟨-, hfinish⟩ | ⟨-, haside⟩
    · rw [hfinish]
    · exact haside.ttl

end

/-! ## One after the other -/

/-- what happens at a service: its registry changes, and then it takes a request -/
structure Turn where
  meanwhile : Registry BalanceSheet → Registry BalanceSheet
  now : Millis
  request : Request

/-- a request, at a reading of the clock, and the service that takes it -/
structure Visit where
  service : Service
  now : Millis
  request : Request

namespace Visit
variable (S : SignatureScheme) (v : Visit)

def response : Response :=
  (v.service.handle S v.now v.request).1

def after : Service :=
  (v.service.handle S v.now v.request).2

/-- a request has passed all checks but that of the replay cache: its path, its headers, its
timestamp, its size and its signature; the credentials are what its headers say -/
structure Passed (credentials : Credentials) : Prop where
  path : ∃ route, Route.ofPath? (Http.path v.request.target) = some (.signed route)
  headers : Auth.checkHeaders v.service.window v.now v.request.headers = .ok credentials
  size : v.request.body.length ≤ Auth.maxBody
  verified : S.verifyRequest credentials.signer credentials.timestamp v.request.body
    credentials.signature = true

structure Accepted (credentials : Credentials) : Prop extends Passed S v credentials where
  fresh : (v.service.replay.check v.service.window credentials.signature credentials.timestamp
    v.now).1 = true

def ruling? : Option Ruling :=
  match v.service.arrive v.now v.request with
  | .answered _ => none
  | .waiting credentials _ =>
    (Auth.sighting? S v.now credentials v.request.body).map
      (v.service.replay.ruling v.service.window)

end Visit

def visits (S : SignatureScheme) : Service → List Turn → List Visit
  | _, [] => []
  | s, t :: rest =>
    let v : Visit := ⟨{ s with registry := t.meanwhile s.registry }, t.now, t.request⟩
    v :: visits S (v.after S) rest

section
variable {S : SignatureScheme}

theorem Visit.ruling?_eq_some_iff (v : Visit) (y : Ruling) : v.ruling? S = some y ↔
    ∃ credentials, v.Passed S credentials ∧ y = v.service.replay.ruling v.service.window
      ⟨credentials.signature, credentials.timestamp, v.now⟩ := by
  unfold ruling?
  constructor
  · intro h
    cases ha : v.service.arrive v.now v.request with
    | answered response =>
      rw [ha] at h
      cases h
    | waiting credentials route =>
      obtain ⟨hpath, hheaders⟩ := (arrive_eq_waiting_iff _ _ _ _ _).mp ha
      rw [ha] at h
      unfold Auth.sighting? at h
      dsimp only at h
      split at h
      · rename_i hpassed
        exact ⟨credentials, ⟨⟨route, hpath⟩, hheaders, hpassed.1, hpassed.2⟩,
          (Option.some.inj h).symm⟩
      · cases h
  · rintro ⟨credentials, ⟨⟨route, hpath⟩, hheaders, hsize, hverified⟩, rfl⟩
    rw [(arrive_eq_waiting_iff _ _ _ _ _).mpr ⟨hpath, hheaders⟩]
    unfold Auth.sighting?
    dsimp only
    rw [if_pos ⟨hsize, hverified⟩]
    rfl

theorem Visit.replay_after (v : Visit) : (v.after S).replay =
    v.service.replay.seeAll v.service.window (v.ruling? S).toList := by
  unfold ruling? after handle
  cases ha : v.service.arrive v.now v.request with
  | answered response => rfl
  | waiting credentials route =>
    dsimp only
    cases hx : Auth.sighting? S v.now credentials v.request.body with
    | none => exact (aside_finish hx v.service route).replay
    | some x => exact finish_replay hx v.service route

theorem Visit.ttl_after (v : Visit) : (v.after S).ttl = v.service.ttl := by
  unfold after handle
  cases v.service.arrive v.now v.request with
  | answered response => rfl
  | waiting credentials route => exact finish_ttl S v.service v.now credentials route v.request

theorem Visit.response_eq_replayed_iff {v : Visit} {credentials : Credentials}
    (h : v.Passed S credentials) : v.response S = denied .replayed ↔
      (v.service.replay.ruling v.service.window
        ⟨credentials.signature, credentials.timestamp, v.now⟩).accepted = false := by
  obtain ⟨⟨route, hpath⟩, hheaders, hsize, hverified⟩ := h
  have ha := (arrive_eq_waiting_iff _ _ _ _ _).mpr ⟨hpath, hheaders⟩
  have hx : Auth.sighting? S v.now credentials v.request.body =
      some ⟨credentials.signature, credentials.timestamp, v.now⟩ := if_pos ⟨hsize, hverified⟩
  unfold response handle
  rw [ha]
  exact finish_eq_replayed_iff hx v.service route

theorem window_visits (s : Service) (turns : List Turn) :
    ∀ v ∈ s.visits S turns, v.service.window = s.window := by
  induction turns generalizing s with
  | nil => exact fun v hv => nomatch hv
  | cons t rest ih =>
    intro v hv
    rcases List.mem_cons.mp hv with rfl | hv
    · rfl
    · rw [ih _ v hv]
      exact congrArg (Word.satMul · _) (Visit.ttl_after _)

theorem map_now_visits (s : Service) (turns : List Turn) :
    (s.visits S turns).map Visit.now = turns.map Turn.now := by
  induction turns generalizing s with
  | nil => rfl
  | cons t rest ih => rw [visits, List.map_cons, List.map_cons, ih]

/-- the rulings on the requests of a service are the log of its cache -/
theorem wrote_visits (s : Service) (turns : List Turn) :
    s.replay.Wrote s.window ((s.visits S turns).filterMap (Visit.ruling? S)) := by
  induction turns generalizing s with
  | nil => exact s.replay.wrote_nil s.window
  | cons t rest ih =>
    let v : Visit := ⟨{ s with registry := t.meanwhile s.registry }, t.now, t.request⟩
    have hwindow : (v.after S).window = s.window := congrArg (Word.satMul · _) v.ttl_after
    have hrest := ih (v.after S)
    rw [hwindow, v.replay_after] at hrest
    rw [visits, List.filterMap_eq_flatMap_toList, List.flatMap_cons,
      ← List.filterMap_eq_flatMap_toList, ReplayCache.wrote_append]
    refine ⟨ReplayCache.wrote_toList _ _ fun y hy => ?_, hrest⟩
    obtain ⟨credentials, -, rfl⟩ := (v.ruling?_eq_some_iff y).mp hy
    rfl

end

/-! ## Replays -/

/-- what is known of a request that has passed, after the earlier ones of the same service -/
structure Judged (S : SignatureScheme) (window : Millis) (earlier : List Visit) (v : Visit)
    (c : Credentials) : Prop where
  /-- it is denied as a replay if the signature has been accepted, and not so long ago -/
  replayed : v.response S = denied .replayed ↔ ∃ u ∈ earlier, ∃ d, u.Accepted S d ∧
    d.signature = c.signature ∧ ReplayCache.horizon window v.now ≤ d.timestamp
  /-- that is to say, if the cache has not accepted it -/
  refused : v.response S = denied .replayed ↔ ¬ v.Accepted S c
  /-- if it is accepted, its signature has not been accepted with its timestamp -/
  once : v.Accepted S c → ∀ u ∈ earlier, ∀ d, u.Accepted S d →
    ¬ (d.signature = c.signature ∧ d.timestamp = c.timestamp)
  /-- if its signature has not been accepted, it is not denied as a replay -/
  new : (∀ u ∈ earlier, ∀ d, u.Accepted S d → d.signature ≠ c.signature) →
    v.response S ≠ denied .replayed

theorem Visit.accepted_iff {S : SignatureScheme} {v : Visit} {c : Credentials}
    (h : v.Passed S c) : v.Accepted S c ↔
      (v.service.replay.ruling v.service.window ⟨c.signature, c.timestamp, v.now⟩).accepted
        = true :=
  ⟨fun ha => ha.fresh, fun ha => ⟨h, ha⟩⟩

/-- what has been accepted among visits is what has been accepted in the log of their cache -/
theorem exists_accepted_iff {S : SignatureScheme} (earlier : List Visit) (signature : Bytes)
    (p : Millis → Prop) :
    (∃ x ∈ earlier.filterMap (Visit.ruling? S), x.accepted = true ∧ x.signature = signature ∧
      p x.timestamp) ↔
    ∃ u ∈ earlier, ∃ d, u.Accepted S d ∧ d.signature = signature ∧ p d.timestamp := by
  constructor
  · rintro ⟨x, hx, haccepted, hsignature, hp⟩
    obtain ⟨u, hu, hruling⟩ := List.mem_filterMap.mp hx
    obtain ⟨d, hpassed, rfl⟩ := (u.ruling?_eq_some_iff x).mp hruling
    exact ⟨u, hu, d, ⟨hpassed, haccepted⟩, hsignature, hp⟩
  · rintro ⟨u, hu, d, haccepted, hsignature, hp⟩
    have hruling := (u.ruling?_eq_some_iff _).mpr ⟨d, haccepted.toPassed, rfl⟩
    exact ⟨_, List.mem_filterMap.mpr ⟨u, hu, hruling⟩, haccepted.fresh, hsignature, hp⟩

/-- while the clock does not go back, exactly the replays are denied as replays -/
theorem judged_visits (S : SignatureScheme) (ledger : BalanceSheet) (ttl : Word 64)
    (turns : List Turn) (hclock : (turns.map Turn.now).Pairwise (· ≤ ·))
    (earlier : List Visit) (v : Visit) (later : List Visit)
    (hlog : (start ledger ttl).visits S turns = earlier ++ v :: later) (c : Credentials)
    (hpassed : v.Passed S c) : Judged S (start ledger ttl).window earlier v c := by
  have hwindow : v.service.window = (start ledger ttl).window :=
    window_visits (S := S) _ turns v (hlog ▸ List.mem_append_right _ List.mem_cons_self)
  have hwrote := wrote_visits (S := S) (start ledger ttl) turns
  have hruling := (v.ruling?_eq_some_iff _).mpr ⟨c, hpassed, rfl⟩
  rw [hlog, List.filterMap_append, List.filterMap_cons_some hruling] at hwrote
  have hle : ∀ x ∈ earlier.filterMap (Visit.ruling? S), x.now ≤ v.now := by
    intro x hx
    obtain ⟨u, hu, hx⟩ := List.mem_filterMap.mp hx
    obtain ⟨d, -, rfl⟩ := (u.ruling?_eq_some_iff x).mp hx
    rw [← map_now_visits (S := S) (start ledger ttl), hlog, List.map_append] at hclock
    exact (List.pairwise_append.mp hclock).2.2 u.now (List.mem_map_of_mem hu) v.now
      List.mem_cons_self
  have hexact := (Visit.response_eq_replayed_iff hpassed).trans
    ((ReplayCache.refused_iff_of_le hwrote rfl hle).trans
      (exists_accepted_iff earlier c.signature
        (ReplayCache.horizon (start ledger ttl).window v.now ≤ ·)))
  have hrefused : v.response S = denied .replayed ↔ ¬ v.Accepted S c := by
    rw [Visit.response_eq_replayed_iff hpassed, Visit.accepted_iff hpassed, Bool.not_eq_true]
  refine ⟨hexact, hrefused, ?_, ?_⟩
  · rintro haccepted u hu d hd ⟨hsignature, hstamp⟩
    have hnear := (presented_of_checkHeaders hpassed.headers).near
    rw [hwindow] at hnear
    refine hrefused.mp (hexact.mpr ⟨u, hu, d, hd, hsignature, ?_⟩) haccepted
    rw [hstamp]
    exact ReplayCache.horizon_le_of_near hnear
  · intro hnone hresponse
    obtain ⟨u, hu, d, hd, hsignature, -⟩ := hexact.mp hresponse
    exact hnone u hu d hd hsignature

/-- a message of a client comes twice, and the second time its headers are spelled another way -/
theorem judged_visits_respelled :
    let c := Client.start ⟨List.replicate 32 1, by decide⟩ .none
    let time : Millis := ⟨7, by decide⟩
    let q : SignedRequest := .closeExpired ⟨c.account ed25519⟩
    let plain := c.message ed25519 time q q.route
    let signature := ed25519.signRequest c.secret time plain.body
    let mark := Bytes.ofString "0x"
    let capitals (text : String) : Bytes :=
      (Bytes.ofString text).map fun b => if 97 ≤ b then b - 32 else b
    let spelled : Request := { plain with
      headers := [
        (Bytes.ofString "X-Signer", mark ++ capitals (c.account ed25519).toHex),
        (Bytes.ofString "X-Timestamp", Bytes.ofString "+07"),
        (Bytes.ofString "X-Signature", mark ++ mark ++ capitals (Hex.text signature))] }
    let turns : List Turn := [⟨id, ⟨1000, by decide⟩, plain⟩, ⟨id, ⟨300007, by decide⟩, spelled⟩]
    (turns.map Turn.now).Pairwise (· ≤ ·) ∧ plain.headers ≠ spelled.headers ∧
      ∃ u v credentials, (start .empty ⟨300, by decide⟩).visits ed25519 turns = [u, v] ∧
        u.Accepted ed25519 credentials ∧ v.Passed ed25519 credentials ∧
        v.response ed25519 = denied .replayed := by
  intro c time q plain signature mark capitals spelled turns
  let u : Visit := ⟨start .empty ⟨300, by decide⟩, ⟨1000, by decide⟩, plain⟩
  let v : Visit := ⟨u.after ed25519, ⟨300007, by decide⟩, spelled⟩
  let credentials : Credentials := c.credentials ed25519 time q
  have hclock : (turns.map Turn.now).Pairwise (· ≤ ·) := by decide
  have hheaders : plain.headers ≠ spelled.headers := fun hsame =>
    absurd (congrArg List.length hsame) (by decide)
  have hpath := ofPath?_path .closeExpired
  have hsize : plain.body.length ≤ Auth.maxBody := SignedRequest.length_body_le (q := q) trivial
  have hverified : ed25519.verifyRequest (c.account ed25519) time plain.body signature = true := by
    decide +kernel
  have hu : u.Accepted ed25519 credentials :=
    ⟨⟨⟨_, hpath⟩, checkHeaders_message ed25519 c time q q.route (by decide), hsize, hverified⟩,
      by decide⟩
  have hwindow : v.service.window = u.service.window := congrArg (Word.satMul · _) u.ttl_after
  have hv : v.Passed ed25519 credentials := by
    refine ⟨⟨_, hpath⟩, ?_, hsize, hverified⟩
    rw [hwindow]
    decide +kernel
  have hjudged := judged_visits ed25519 .empty ⟨300, by decide⟩ turns hclock [u] v [] rfl
    credentials hv
  have hresponse := hjudged.replayed.mpr ⟨u, List.mem_cons_self, credentials, hu, rfl, by decide⟩
  exact ⟨hclock, hheaders, u, v, credentials, rfl, hu, hv, hresponse⟩
end Service
end PayChannel
