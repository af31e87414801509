import Mathlib
import PayChannel.Proofs.Service.Redirect

/-!
# What a status tells

A client that gets an answer reads its status first.  A signed request is answered with one success
status, and only if its operation has been performed and was not refused; and none of the statuses
that tell of a failure is one of those that are worth another attempt.

* `Accepted`, `finish_told`    an operation has been performed, or the status tells that it has not;
* `message_told`    the same of a client's message.
-/

set_option linter.unusedSectionVars false

namespace PayChannel

open Http

namespace Service

/-! ## Signed operations -/

/-- the operation that a body asks for has been performed, and was not refused -/
structure Accepted (S : SignatureScheme) (s : Service) (signer : Account) (body : Bytes)
    (route : SignedRoute) (answer : Response × Service) : Prop where
  status : answer.1.status = 200
  performed : ∃ q, SignedRequest.decode body route = .ok q ∧
    answer.2.registry = (s.registry.perform S (q.operation signer)).2 ∧
    ∀ refusal, (s.registry.perform S (q.operation signer)).1 ≠ .refused refusal

/-! ## Messages -/

theorem finish_told (S : SignatureScheme) (s : Service) (now : Millis) (credentials : Credentials)
    (route : SignedRoute) (request : Request) :
    let answer := s.finish S now credentials route request
    TellsFailure answer.1.status ∨
      Accepted S s credentials.signer request.body route answer := by
  rcases s.finish_cases S now credentials route request with
    ⟨hfailed, -⟩ | ⟨-, -, q, hq, hfailed | haccepted⟩
  · exact .inl hfailed
  · exact .inl hfailed
  · exact .inr ⟨hq.status.resolve_left fun ⟨refusal, hrefused⟩ => haccepted refusal hrefused, q,
      hq.decoded, hq.registry, haccepted⟩

/-- a client's message on its own route fails and is told so, or its operation is performed in the
client's name and not refused -/
theorem message_told (S : SignatureScheme) (s : Service) (now : Millis) (c : Client)
    (timestamp : Millis) (q : SignedRequest) :
    let answer := s.handle S now (c.message S timestamp q q.route)
    let direct := s.registry.perform S (q.operation (c.account S))
    TellsFailure answer.1.status ∨
      (answer.1.status = 200 ∧ answer.2.registry = direct.2 ∧
        ∀ refusal, direct.1 ≠ .refused refusal) := by
  intro answer direct
  have hown : SignedRequest.decode q.body q.route = .ok q := by
    rw [q.decode_body q.route]
    cases q <;> rfl
  show TellsFailure (s.handle S now (c.message S timestamp q q.route)).1.status ∨
    ((s.handle S now (c.message S timestamp q q.route)).1.status = 200 ∧
      (s.handle S now (c.message S timestamp q q.route)).2.registry = direct.2 ∧ _)
  unfold handle
  cases harrive : s.arrive now (c.message S timestamp q q.route) with
  | answered response =>
    left
    unfold arrive at harrive
    have hpath : Route.ofPath? (path (c.message S timestamp q q.route).target)
        = some (.signed q.route) := ofPath?_path q.route
    rw [hpath] at harrive
    dsimp only at harrive
    split at harrive
    · rename_i denial hdenial
      cases harrive
      exact denial.tellsFailure
    · cases harrive
  | waiting credentials route =>
    obtain ⟨hroute, hheaders⟩ := (s.arrive_eq_waiting_iff now _ _ _).mp harrive
    have hpath := (ofPath?_path q.route).symm.trans hroute
    cases hpath
    have hsigner : credentials.signer = c.account S :=
      signer_of_presented S c timestamp q q.route (presented_of_checkHeaders hheaders)
    refine (s.finish_told S now credentials q.route _).imp_right fun h => ?_
    obtain ⟨q', hdecode, hregistry, hanswer⟩ := h.performed
    have hbody : SignedRequest.decode q.body q.route = .ok q' := hdecode
    rw [hown] at hbody
    cases hbody
    rw [hsigner] at hregistry hanswer
    exact ⟨h.status, hregistry, hanswer⟩

end Service
end PayChannel
