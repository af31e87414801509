import Mathlib
import PayChannel.Proofs.Registry.Repetition
import PayChannel.Proofs.Service.Authority
import PayChannel.Proofs.Service.Statuses

/-!
# Calls over a network that loses messages

On its way a request may get lost, or the answer to it, and the client cannot tell which.  It signs
the same request anew and sends it again, and the replay cache takes that for a new one.  So it is up
to the operation what a second arrival does: all operations but a funding have nothing left to do
then.

* `Trip`, `Remote`    a service at the other end of such a network;
* `attempts_induction`    what every attempt keeps, the call keeps;
* `AtMostOnce`, `retried_at_most_once`    all signed calls but one take effect at most once.
-/

set_option linter.unusedSectionVars false

namespace PayChannel

/-! ## The network -/

inductive Fate where
  /-- the request does not get there -/
  | lost (reason : String)
  /-- the request gets there, but no answer gets back -/
  | unanswered (reason : String)
  | delivered

/-- one attempt to reach a service: what the clock of the client shows before it, what the clock of
the service shows at its end, and what becomes of it -/
structure Trip where
  sent : Millis
  arrived : Millis
  fate : Fate

structure Remote where
  service : Service
  made : Nat

namespace Remote

def exchange (S : SignatureScheme) (trips : Nat → Trip) (request : Http.Request) (t : Remote) :
    Delivery × Remote :=
  let trip := trips t.made
  let (response, service) := t.service.handle S trip.arrived request
  match trip.fate with
  | .lost reason => (.error reason, { t with made := t.made + 1 })
  | .unanswered reason => (.error reason, ⟨service, t.made + 1⟩)
  | .delivered => (.ok ⟨response.status, response.body⟩, ⟨service, t.made + 1⟩)

/-- the transport over a network on which the trips go as they are listed -/
def transport (S : SignatureScheme) (trips : Nat → Trip) : Transport Remote :=
  Transport.ofExchange (exchange S trips) (fun t => (.ok (), t)) (fun _ t => t)
    (fun t => ((trips t.made).sent, t))

end Remote

/-! ## Attempts -/

/-- what every attempt keeps that is to be repeated, holds up to the last one -/
theorem attempts_induction {α τ : Type} {policy : RetryPolicy}
    {decode : Bytes → Except Json.Flaw α} (send : τ → Delivery × τ) {pause : Bool → Nat → τ → τ}
    {P : τ → Prop} {Q : Except Failure α → τ → Prop}
    (final : ∀ s result, P s → verdict decode (send s).1 = .final result → Q result (send s).2)
    (last : ∀ s isLost failure, P s → verdict decode (send s).1 = .again isLost failure →
      Q (.error failure) (send s).2)
    (again : ∀ s isLost failure duration, P s → verdict decode (send s).1 = .again isLost failure →
      P (pause isLost duration (send s).2))
    (spare attempt : Nat) {s : τ} (h : P s) :
    Q (attempts policy decode send pause spare attempt s).1
      (attempts policy decode send pause spare attempt s).2 := by
  induction spare generalizing attempt s with
  | zero =>
    unfold attempts
    dsimp only
    cases hverdict : verdict decode (send s).1 with
    | final result => exact final s result h hverdict
    | again isLost failure => exact last s isLost failure h hverdict
  | succ spare ih =>
    unfold attempts
    dsimp only
    cases hverdict : verdict decode (send s).1 with
    | final result => exact final s result h hverdict
    | again isLost failure =>
      exact ih (attempt + 1) (again s isLost failure (policy.backoff attempt) h hverdict)

def Fate.isUnanswered : Fate → Bool
  | unanswered _ => true
  | _ => false

/-- what an attempt has done in the name of an account: the operation was performed, or not; if the
attempt succeeds, it was, and if it is to be repeated, it was not or the answer got lost -/
structure Attempted {α : Type} (S : SignatureScheme) (trips : Nat → Trip) (q : SignedRequest)
    (decode : Bytes → Except Json.Flaw α) (account : Account) (t : Remote) (delivery : Delivery)
    (t' : Remote) : Prop where
  made : t'.made = t.made + 1
  registry : t'.service.registry = t.service.registry ∨
    t'.service.registry = (t.service.registry.perform S (q.operation account)).2
  success : ∀ a, verdict decode delivery = .final (.ok a) →
    t'.service.registry = (t.service.registry.perform S (q.operation account)).2 ∧
      ∀ refusal, (t.service.registry.perform S (q.operation account)).1 ≠ .refused refusal
  again : ∀ isLost failure, verdict decode delivery = .again isLost failure →
    t'.service.registry = t.service.registry ∨ (trips t.made).fate.isUnanswered = true
  final : ∀ result, verdict decode delivery = .final result →
    (trips t.made).fate.isUnanswered = false

section
variable {α : Type} {S : SignatureScheme} {trips : Nat → Trip} {q : SignedRequest}
  {decode : Bytes → Except Json.Flaw α} {c : Client} {t : Remote}

theorem verdict_of_failure (reply : Reply) (h : TellsFailure reply.status)
    (decode : Bytes → Except Json.Flaw α) :
    verdict decode (.ok reply) = .final (.error (Failure.ofReply reply)) := by
  unfold verdict
  dsimp only
  rw [h.not_success, h.not_retryable, if_neg Bool.false_ne_true, if_neg Bool.false_ne_true]

theorem verdict_of_success (reply : Reply) (h : reply.status = 200)
    (decode : Bytes → Except Json.Flaw α) :
    verdict decode (.ok reply) = .final ((decode reply.body).mapError Failure.codec) := by
  have hsuccess : isSuccess reply.status = true := by
    rw [h]
    rfl
  unfold verdict
  dsimp only
  rw [if_pos hsuccess]

theorem handle_own (S : SignatureScheme) (s : Service) (now : Millis) (c : Client)
    (timestamp : Millis) (q : SignedRequest) :
    let registry := (s.handle S now (c.message S timestamp q q.route)).2.registry
    registry = s.registry ∨
      registry = (s.registry.perform S (q.operation (c.account S))).2 := by
  have hown : q.readAs q.route = some q := by cases q <;> rfl
  rcases handle_redirected S c timestamp q q.route s now with hsame | ⟨q', hread, -, hperformed⟩
  · exact .inl hsame
  · rw [hown] at hread
    cases hread
    exact .inr hperformed

theorem attempted_post (S : SignatureScheme) (trips : Nat → Trip) (q : SignedRequest)
    (decode : Bytes → Except Json.Flaw α) (c : Client) (t : Remote) :
    let sent := Client.post S (Remote.transport S trips) q.route.path q.body (c, t)
    Attempted S trips q decode (c.account S) t sent.1 sent.2.2 := by
  intro sent
  let timestamp := (c.nextTimestamp (trips t.made).sent).1
  let message := c.message S timestamp q q.route
  let answer := t.service.handle S (trips t.made).arrived message
  have hregistry := handle_own S t.service (trips t.made).arrived c timestamp q
  have htold := t.service.message_told S (trips t.made).arrived c timestamp q
  show Attempted S trips q decode (c.account S) t (Remote.exchange S trips message t).1
    (Remote.exchange S trips message t).2
  unfold Remote.exchange
  dsimp only
  cases hfate : (trips t.made).fate with
  | lost reason =>
    refine ⟨rfl, .inl rfl, ?_, fun _ _ _ => .inl rfl, ?_⟩
    · rintro a ⟨⟩
    · rintro result ⟨⟩
  | unanswered reason =>
    refine ⟨rfl, hregistry, ?_, fun _ _ _ => .inr ?_, ?_⟩
    · rintro a ⟨⟩
    · rw [hfate]
      rfl
    · rintro result ⟨⟩
  | delivered =>
    have hanswered : ∀ result, verdict decode (.ok ⟨answer.1.status, answer.1.body⟩)
        = .final result → (trips t.made).fate.isUnanswered = false := by
      intro _ _
      rw [hfate]
      rfl
    rcases htold with hfailed | ⟨hstatus, hperformed⟩
    · have hverdict := verdict_of_failure ⟨answer.1.status, answer.1.body⟩ hfailed decode
      refine ⟨rfl, hregistry, fun a h => ?_, fun isLost failure h => ?_, hanswered⟩
      · cases hverdict.symm.trans h
      · cases hverdict.symm.trans h
    · have hverdict := verdict_of_success ⟨answer.1.status, answer.1.body⟩ hstatus decode
      refine ⟨rfl, hregistry, fun a _ => hperformed, fun isLost failure h => ?_, hanswered⟩
      cases hverdict.symm.trans h

/-- what every attempt keeps that is to be repeated, holds up to the last one, and what it does then
is what the call has done -/
theorem submit_induction {P : Client × Remote → Prop} {Q : Except Failure α → Remote → Prop}
    (success : ∀ s delivery s' a, P s →
      Client.post S (Remote.transport S trips) q.route.path q.body s = (delivery, s') →
      Attempted S trips q decode (c.account S) s.2 delivery s'.2 →
      verdict decode delivery = .final (.ok a) → Q (.ok a) s'.2)
    (failed : ∀ s delivery s' failure, P s →
      Client.post S (Remote.transport S trips) q.route.path q.body s = (delivery, s') →
      Attempted S trips q decode (c.account S) s.2 delivery s'.2 → Q (.error failure) s'.2)
    (again : ∀ s delivery s' isLost failure, P s →
      Client.post S (Remote.transport S trips) q.route.path q.body s = (delivery, s') →
      Attempted S trips q decode (c.account S) s.2 delivery s'.2 →
      verdict decode delivery = .again isLost failure → P s')
    (h : P (c, t)) :
    let call := Client.submit S (Remote.transport S trips) decode q.route q.body c t
    Q call.1 call.2.2 := by
  let send := Client.post S (Remote.transport S trips) q.route.path q.body
  have hpost : ∀ s : Client × Remote, s.1.secret = c.secret →
      (send s).2.1.secret = c.secret ∧
        Attempted S trips q decode (c.account S) s.2 (send s).1 (send s).2.2 := by
    intro s hsecret
    have haccount : s.1.account S = c.account S := congrArg S.account hsecret
    exact ⟨hsecret, haccount ▸ attempted_post S trips q decode s.1 s.2⟩
  refine attempts_induction send (τ := Client × Remote)
    (P := fun s => s.1.secret = c.secret ∧ P s) (Q := fun result s => Q result s.2)
    ?_ ?_ ?_ c.policy.spare 1 ⟨rfl, h⟩
  · rintro s (failure | a) ⟨hsecret, hs⟩ hverdict
    · exact failed s _ _ failure hs rfl (hpost s hsecret).2
    · exact success s _ _ a hs rfl (hpost s hsecret).2 hverdict
  · rintro s isLost failure ⟨hsecret, hs⟩ hverdict
    exact failed s _ _ failure hs rfl (hpost s hsecret).2
  · rintro s isLost failure duration ⟨hsecret, hs⟩ hverdict
    obtain ⟨hkept, hattempted⟩ := hpost s hsecret
    have hnext := again s _ _ isLost failure hs rfl hattempted hverdict
    cases isLost with
    | true => exact ⟨hkept, hnext⟩
    | false => exact ⟨hkept, hnext⟩

end

/-! ## Calls that take effect at most once -/

/-- a call leaves what was there, or what is left when its operation is asked for directly; if it
succeeds, the latter -/
structure AtMostOnce {α : Type} (r : Registry BalanceSheet)
    (call : Except Failure α × Client × Remote) (direct : Registry BalanceSheet) : Prop where
  registry : call.2.2.service.registry = r ∨ call.2.2.service.registry = direct
  success : ∀ a, call.1 = .ok a → call.2.2.service.registry = direct

section
variable {S : SignatureScheme} {trips : Nat → Trip} {q : SignedRequest} {c : Client} {t : Remote}

theorem submit_at_most_once {α : Type} (decode : Bytes → Except Json.Flaw α)
    (hf : t.service.registry.Filed) (hq : ∀ request, q ≠ .addBalance request) :
    AtMostOnce t.service.registry
      (Client.submit S (Remote.transport S trips) decode q.route q.body c t)
      (t.service.registry.perform S (q.operation (c.account S))).2 := by
  let r := t.service.registry
  let operation := q.operation (c.account S)
  let direct := (r.perform S operation).2
  have hagain : (direct.perform S operation).2 = direct := by
    refine Registry.perform_again S hf fun sender receiver amount h => ?_
    change q.operation (c.account S) = _ at h
    cases q with
    | addBalance request => exact hq request rfl
    | openChannel | claim | closeChannel | closeExpired => cases h
  have hperformed : ∀ t : Remote, t.service.registry = r ∨ t.service.registry = direct →
      (t.service.registry.perform S operation).2 = direct := by
    rintro t (h | h)
    · rw [h]
    · rw [h, hagain]
  have hstep : ∀ t delivery t', (t.service.registry = r ∨ t.service.registry = direct) →
      Attempted S trips q decode (c.account S) t delivery t' →
      t'.service.registry = r ∨ t'.service.registry = direct := by
    intro t delivery t' ht h
    rcases h.registry with hsame | hdone
    · rw [hsame]
      exact ht
    · exact .inr (hdone.trans (hperformed t ht))
  have hcall := submit_induction (t := t)
    (P := fun s => s.2.service.registry = r ∨ s.2.service.registry = direct)
    (Q := fun result t => (t.service.registry = r ∨ t.service.registry = direct) ∧
      ∀ a : α, result = .ok a → t.service.registry = direct)
    (fun s _ _ a hs _ h hverdict =>
      ⟨hstep s.2 _ _ hs h, fun _ _ => (h.success a hverdict).1.trans (hperformed s.2 hs)⟩)
    (fun s _ _ failure hs _ h => ⟨hstep s.2 _ _ hs h, by rintro a ⟨⟩⟩)
    (fun s _ _ _ _ hs _ h _ => hstep s.2 _ _ hs h) (.inl rfl)
  exact ⟨hcall.1, hcall.2⟩

end

/-- over a network that loses requests and answers in any way, a call to open a channel, to claim, to
close, or to close what is due takes effect at most once, however often the client sends it; what it
leaves is then what the operation leaves when the registry is asked directly -/
theorem retried_at_most_once (S : SignatureScheme) (trips : Nat → Trip) (c : Client) {t : Remote}
    (ht : Service.Reachable S t.service) :
    let T := Remote.transport S trips
    let r := t.service.registry
    let account := c.account S
    (∀ receiver amount duration, AtMostOnce r (Client.openChannel S T receiver amount duration c t)
      (r.openChannel account receiver amount duration).2) ∧
    (∀ sender voucher, AtMostOnce r (Client.claim S T sender voucher c t)
      (r.claimVoucher S sender account voucher).2) ∧
    (∀ ends, AtMostOnce r (Client.closeChannel S T ends c t)
      (r.closeChannel account ends.sender ends.receiver).2) ∧
    AtMostOnce r (Client.closeExpired S T c t) (r.closeExpired account).2 := by
  intro T r account
  refine ⟨fun receiver amount duration => ?_, fun sender voucher => ?_, fun ends => ?_, ?_⟩
  · exact submit_at_most_once (q := .openChannel ⟨account, receiver, amount, duration⟩) _ ht.filed
      (by rintro request ⟨⟩)
  · exact submit_at_most_once
      (q := .claim ⟨sender, account, voucher.sessionId, voucher.amount, voucher.signature⟩) _ ht.filed
      (by rintro request ⟨⟩)
  · exact submit_at_most_once (q := .closeChannel ⟨ends.sender, ends.receiver⟩) _ ht.filed
      (by rintro request ⟨⟩)
  · exact submit_at_most_once (q := .closeExpired ⟨account⟩) _ ht.filed (by rintro request ⟨⟩)

/-- the answer to a first opening gets lost, and the second one is refused because the channel is open:
the call fails, and the channel has been opened once -/
theorem retried_at_most_once_unanswered :
    let c := Client.start ⟨List.replicate 32 1, List.length_replicate⟩ .standard
    let t : Remote := ⟨.start (.ofList [(.repeated 1, ⟨100, by decide⟩)]) ⟨300, by decide⟩, 0⟩
    let trips (i : Nat) : Trip :=
      ⟨Word.one, Word.one, if i = 0 then .unanswered "timed out" else .delivered⟩
    let call := Client.openChannel .tagging (Remote.transport .tagging trips) (.repeated 2)
      ⟨30, by decide⟩ ⟨10, by decide⟩ c t
    let direct := t.service.registry.openChannel (.repeated 1) (.repeated 2) ⟨30, by decide⟩
      ⟨10, by decide⟩
    Service.Reachable .tagging t.service ∧ call.2.2.made = 2 ∧ call.1.isOk = false ∧
      direct.1.isOk = true ∧ call.2.2.service.registry = direct.2 := by
  intro c t trips call direct
  have hreachable : Service.Reachable .tagging t.service := .start _ _
  have hrun : call.2.2.made = 2 ∧ call.1.isOk = false ∧ direct.1.isOk = true ∧
      call.2.2.service.registry.channels.entries.length = 1 := by decide +kernel
  obtain ⟨hmade, hfails, hopens, hone⟩ := hrun
  have honce := (retried_at_most_once .tagging trips c hreachable).1 (.repeated 2) ⟨30, by decide⟩
    ⟨10, by decide⟩
  refine ⟨hreachable, hmade, hfails, hopens, honce.registry.resolve_left fun hsame => ?_⟩
  have hnone : call.2.2.service.registry.channels.entries.length = 0 := by
    rw [hsame]
    rfl
  rw [hone] at hnone
  cases hnone

end PayChannel
