import Mathlib
import PayChannel.Proofs.Client.Agreement
import PayChannel.Proofs.Client.Retries

/-!
# Fundings over a network that loses messages

A funding has nothing in it that tells the service it has been made before.  So when its answer gets
lost, and the client sends it again, it is made again: once for every answer that gets lost, and once
for the one that does not.

* `unanswered`    how many answers got lost;
* `AdmittedUpto`    every attempt is in time and new to the replay cache when it arrives;
* `FundedSoFar`    how often the funding has been made before an attempt, with one lemma for an
  attempt that is to be repeated and one for an attempt that succeeds;
* `addBalance_retried`    how often a call makes the funding.
-/

set_option linter.unusedSectionVars false

namespace PayChannel

/-! ## Counting -/

/-- how many of the first trips reach the service and leave its answer behind -/
def unanswered (trips : Nat → Trip) (made : Nat) : Nat :=
  Nat.count (fun i => (trips i).fate.isUnanswered = true) made

theorem unanswered_succ {trips : Nat → Trip} {n : Nat}
    (h : (trips n).fate.isUnanswered = true) :
    unanswered trips (n + 1) = unanswered trips n + 1 := by
  unfold unanswered
  rw [Nat.count_succ, if_pos h]

theorem unanswered_succ_of_not {trips : Nat → Trip} {n : Nat}
    (h : ¬ (trips n).fate.isUnanswered = true) : unanswered trips (n + 1) = unanswered trips n := by
  unfold unanswered
  rw [Nat.count_succ, if_neg h, Nat.add_zero]

section
variable {α : Type} {S : SignatureScheme} {trips : Nat → Trip} {decode : Bytes → Except Json.Flaw α}
  {account receiver : Account} {amount : Amount} {r : Registry BalanceSheet} {n : Nat}
  {t t' : Remote} {delivery : Delivery}

theorem Attempted.unanswered_le {q : SignedRequest}
    (ha : Attempted S trips q decode account t delivery t') :
    unanswered trips t.made ≤ unanswered trips t'.made := by
  rw [ha.made]
  exact Nat.count_monotone _ (Nat.le_succ _)

theorem Attempted.of_refused
    (ha : Attempted S trips (.addBalance ⟨account, receiver, amount⟩) decode account t delivery t')
    (h : ∃ refusal, t.service.registry.addBalance account receiver amount
      = (.error refusal, t.service.registry)) :
    t'.service.registry = t.service.registry ∧ ∀ a, verdict decode delivery ≠ .final (.ok a) := by
  obtain ⟨refusal, hrefused⟩ := h
  have hperform : t.service.registry.perform S
        (SignedRequest.operation account (.addBalance ⟨account, receiver, amount⟩))
      = (.refused refusal, t.service.registry) :=
    congrArg (Prod.map (Answer.ofResult .funded) id) hrefused
  refine ⟨?_, fun a hverdict => ?_⟩
  · rcases ha.registry with hkept | hdone
    · exact hkept
    · rw [hdone, hperform]
  · exact (ha.success a hverdict).2 refusal (congrArg Prod.fst hperform)

theorem Registry.FundedTimes.attempted
    (h : Registry.FundedTimes r account receiver amount n t.service.registry)
    (ha : Attempted S trips (.addBalance ⟨account, receiver, amount⟩) decode account t delivery t') :
    Registry.FundedTimes r account receiver amount n t'.service.registry ∨
      Registry.FundedTimes r account receiver amount (n + 1) t'.service.registry := by
  rcases h.ask with hrefused | hmore
  · left
    rw [(ha.of_refused hrefused).1]
    exact h
  · rcases ha.registry with hkept | hdone
    · exact .inl (hkept ▸ h)
    · exact .inr (hdone ▸ hmore)

end

/-! ## Attempts that are let in -/

namespace Remote

/-- the client and the service before one more attempt at a call, after so many others -/
def attempted (S : SignatureScheme) (trips : Nat → Trip) (q : SignedRequest) (c : Client)
    (s : Service) (n : Nat) : Client × Remote :=
  (fun s => (Client.post S (transport S trips) q.route.path q.body s).2)^[n] (c, ⟨s, 0⟩)

def Admits (S : SignatureScheme) (trips : Nat → Trip) (q : SignedRequest)
    (s : Client × Remote) : Prop :=
  Acceptable S s.2.service (trips s.2.made).arrived s.1
    (s.1.nextTimestamp (trips s.2.made).sent).1 q

end Remote

section
variable {S : SignatureScheme} {trips : Nat → Trip} {q : SignedRequest} {c : Client} {s : Service}
  {n : Nat}

theorem attempted_succ : Remote.attempted S trips q c s (n + 1)
    = (Client.post S (Remote.transport S trips) q.route.path q.body
        (Remote.attempted S trips q c s n)).2 :=
  Function.iterate_succ_apply' _ _ _

theorem secret_attempted : (Remote.attempted S trips q c s n).1.secret = c.secret := by
  induction n with
  | zero => rfl
  | succ n ih =>
    rw [attempted_succ]
    exact ih

theorem post_of_unanswered (q : SignedRequest) (sent : Client × Remote) {reason : String}
    (h : (trips sent.2.made).fate = .unanswered reason) :
    let (timestamp, c) := sent.1.nextTimestamp (trips sent.2.made).sent
    Client.post S (Remote.transport S trips) q.route.path q.body sent
      = (.error reason, c, ⟨(sent.2.service.handle S (trips sent.2.made).arrived
          (sent.1.message S timestamp q q.route)).2, sent.2.made + 1⟩) := by
  let timestamp := (sent.1.nextTimestamp (trips sent.2.made).sent).1
  have hexchange : Remote.exchange S trips (sent.1.message S timestamp q q.route) sent.2
      = (.error reason, ⟨(sent.2.service.handle S (trips sent.2.made).arrived
          (sent.1.message S timestamp q q.route)).2, sent.2.made + 1⟩) := by
    unfold Remote.exchange
    dsimp only
    rw [h]
  exact congrArg (fun exchanged => (exchanged.1, (sent.1.nextTimestamp _).2, exchanged.2)) hexchange

theorem answered_of_admits (request : FundRequest) {sent : Client × Remote}
    (haccount : sent.1.account S = request.sender)
    (hadmits : Remote.Admits S trips (.addBalance request) sent) :
    Service.Answered Json.write
      (sent.2.service.registry.addBalance request.sender request.receiver request.amount)
      (sent.2.service.handle S (trips sent.2.made).arrived (sent.1.message S
        (sent.1.nextTimestamp (trips sent.2.made).sent).1 (.addBalance request) .addBalance)) := by
  obtain ⟨replay, hhandle⟩ := Service.handle_message hadmits trivial
  have hanswered := ({ sent.2.service with replay } : Service).answered_addBalance S request
  rw [haccount] at hhandle
  exact hhandle ▸ hanswered

/-- what a funding that is let in leaves, although its answer gets lost -/
theorem registry_of_admits (request : FundRequest) {sent : Client × Remote}
    (haccount : sent.1.account S = request.sender)
    (hadmits : Remote.Admits S trips (.addBalance request) sent)
    (hfate : (trips sent.2.made).fate.isUnanswered = true) :
    (Client.post S (Remote.transport S trips) (SignedRequest.addBalance request).route.path
        (SignedRequest.addBalance request).body sent).2.2.service.registry
      = (sent.2.service.registry.addBalance request.sender request.receiver request.amount).2 := by
  have hanswered := answered_of_admits request haccount hadmits
  cases htrip : (trips sent.2.made).fate with
  | lost reason | delivered =>
    rw [htrip] at hfate
    cases hfate
  | unanswered reason =>
    have hposted := post_of_unanswered (S := S) (.addBalance request) sent htrip
    exact (congrArg (fun posted => posted.2.2.service.registry) hposted).trans hanswered.registry

theorem post_of_delivered (request : FundRequest) {sent : Client × Remote}
    (haccount : sent.1.account S = request.sender)
    (hadmits : Remote.Admits S trips (.addBalance request) sent)
    (h : (trips sent.2.made).fate = .delivered) :
    let direct :=
      sent.2.service.registry.addBalance request.sender request.receiver request.amount
    let posted := Client.post S (Remote.transport S trips)
      (SignedRequest.addBalance request).route.path (SignedRequest.addBalance request).body sent
    verdict (Json.decode Channel) posted.1 = .final (direct.1.mapError .rejected) ∧
      posted.2.2.service.registry = direct.2 := by
  intro direct posted
  let timestamp := (sent.1.nextTimestamp (trips sent.2.made).sent).1
  have hanswered := answered_of_admits request haccount hadmits
  show verdict _ (Remote.exchange S trips
      (sent.1.message S timestamp (.addBalance request) .addBalance) sent.2).1 = _ ∧
    (Remote.exchange S trips
      (sent.1.message S timestamp (.addBalance request) .addBalance) sent.2).2.service.registry = _
  unfold Remote.exchange
  dsimp only
  rw [h]
  exact ⟨verdict_answered (Json.decode_write (α := Channel) (by decide)) hanswered,
    hanswered.registry⟩

end

/-! ## Before every attempt -/

section
variable (S : SignatureScheme) (trips : Nat → Trip) (c : Client) (s : Service) (receiver : Account)
  (amount : Amount)

def fundingOf : SignedRequest :=
  .addBalance ⟨c.account S, receiver, amount⟩

def AdmittedUpto (made : Nat) : Prop :=
  ∀ i < made, Remote.Admits S trips (fundingOf S c receiver amount)
    (Remote.attempted S trips (fundingOf S c receiver amount) c s i)

/-- a funding has been made at most as often as answers got lost; if all attempts were let in, it
has been made as often as that, or it is refused by now -/
structure FundedSoFar (n : Nat) (t : Remote) : Prop where
  funded : Registry.FundedTimes s.registry (c.account S) receiver amount n t.service.registry
  le : n ≤ unanswered trips t.made
  each : AdmittedUpto S trips c s receiver amount t.made → n = unanswered trips t.made ∨
    ∃ refusal, t.service.registry.addBalance (c.account S) receiver amount
      = (.error refusal, t.service.registry)

end

section
variable {α : Type} {S : SignatureScheme} {trips : Nat → Trip} {decode : Bytes → Except Json.Flaw α}
  {c : Client} {s : Service} {receiver : Account} {amount : Amount} {n : Nat} {t t' : Remote}
  {delivery : Delivery}

theorem AdmittedUpto.of_le {made more : Nat}
    (h : AdmittedUpto S trips c s receiver amount more) (hle : made ≤ more) :
    AdmittedUpto S trips c s receiver amount made :=
  fun i hi => h i (Nat.lt_of_lt_of_le hi hle)

/-- a funding whose answer got lost has been made or refused -/
theorem registry_of_unanswered
    (ht : (Remote.attempted S trips (fundingOf S c receiver amount) c s t.made).2 = t)
    (ht' : (Remote.attempted S trips (fundingOf S c receiver amount) c s (t.made + 1)).2 = t')
    (hadmitted : AdmittedUpto S trips c s receiver amount (t.made + 1))
    (hfate : (trips t.made).fate.isUnanswered = true) :
    t'.service.registry
      = (t.service.registry.addBalance (c.account S) receiver amount).2 := by
  have hadmits := hadmitted t.made (Nat.lt_succ_self _)
  have hmade := congrArg Remote.made ht
  have hregistry := registry_of_admits ⟨c.account S, receiver, amount⟩
    (congrArg S.account secret_attempted) hadmits (hmade.symm ▸ hfate)
  rw [← ht', attempted_succ]
  refine hregistry.trans ?_
  rw [ht]

/-- an attempt that is to be repeated has made the funding once more, if its answer got lost, and
otherwise it has done nothing -/
theorem FundedSoFar.again (h : FundedSoFar S trips c s receiver amount n t)
    (ht : (Remote.attempted S trips (fundingOf S c receiver amount) c s t.made).2 = t)
    (ht' : (Remote.attempted S trips (fundingOf S c receiver amount) c s (t.made + 1)).2 = t')
    (ha : Attempted S trips (fundingOf S c receiver amount) decode (c.account S) t delivery t')
    {isLost : Bool} {failure : Failure} (hverdict : verdict decode delivery = .again isLost failure) :
    ∃ n', FundedSoFar S trips c s receiver amount n' t' := by
  have hle := h.le
  have hmore := ha.unanswered_le
  have hearlier : AdmittedUpto S trips c s receiver amount t'.made →
      AdmittedUpto S trips c s receiver amount t.made :=
    fun hadmitted => hadmitted.of_le (ha.made ▸ Nat.le_succ _)
  by_cases hrefused : ∃ refusal, t.service.registry.addBalance (c.account S) receiver amount
      = (.error refusal, t.service.registry)
  · have hsame := (ha.of_refused hrefused).1
    refine ⟨n, hsame ▸ h.funded, by omega, fun _ => .inr ?_⟩
    rw [hsame]
    exact hrefused
  have hasked := h.funded.ask.resolve_left hrefused
  by_cases hfate : (trips t.made).fate.isUnanswered = true
  · have hcount := unanswered_succ hfate
    rw [← ha.made] at hcount
    by_cases hdone : t'.service.registry
        = (t.service.registry.addBalance (c.account S) receiver amount).2
    · refine ⟨n + 1, hdone ▸ hasked, by omega, fun hadmitted => .inl ?_⟩
      have heach := (h.each (hearlier hadmitted)).resolve_right hrefused
      omega
    · have hsame := ha.registry.resolve_right hdone
      refine ⟨n, hsame ▸ h.funded, by omega, fun hadmitted => ?_⟩
      exact absurd (registry_of_unanswered ht ht' (ha.made ▸ hadmitted) hfate) hdone
  · have hsame := (ha.again isLost failure hverdict).resolve_right hfate
    have hcount := unanswered_succ_of_not hfate
    rw [← ha.made] at hcount
    refine ⟨n, hsame ▸ h.funded, by omega, fun hadmitted => ?_⟩
    rw [hcount, hsame]
    exact h.each (hearlier hadmitted)

theorem FundedSoFar.success (h : FundedSoFar S trips c s receiver amount n t)
    (ha : Attempted S trips (fundingOf S c receiver amount) decode (c.account S) t delivery t')
    {a : α} (hverdict : verdict decode delivery = .final (.ok a)) :
    Registry.FundedTimes s.registry (c.account S) receiver amount (n + 1) t'.service.registry ∧
      n ≤ unanswered trips t'.made ∧
      (AdmittedUpto S trips c s receiver amount t'.made → n = unanswered trips t'.made) := by
  have hcount := unanswered_succ_of_not
    (fun hfate => Bool.false_ne_true ((ha.final _ hverdict).symm.trans hfate))
  rw [← ha.made] at hcount
  have hdone := (ha.success a hverdict).1
  have hallowed : ¬ ∃ refusal, t.service.registry.addBalance (c.account S) receiver amount
      = (.error refusal, t.service.registry) :=
    fun hrefused => (ha.of_refused hrefused).2 a hverdict
  refine ⟨?_, hcount ▸ h.le, fun hadmitted => ?_⟩
  · rw [hdone]
    exact h.funded.ask.resolve_left hallowed
  · rw [hcount]
    exact (h.each (hadmitted.of_le (ha.made ▸ Nat.le_succ _))).resolve_right hallowed

end

/-- a funding is made at most once for every answer that gets lost, and once more; each time it moves
its amount from the free balance of the client into the channel.  A call that succeeds has made it at
least once: exactly once for every answer that got lost, and once more, if its attempts were let in
wherever they got there -/
theorem addBalance_retried (S : SignatureScheme) (trips : Nat → Trip) (c : Client) (s : Service)
    (receiver : Account) (amount : Amount) :
    let call := Client.addBalance S (Remote.transport S trips) receiver amount c ⟨s, 0⟩
    ∃ n, Registry.FundedTimes s.registry (c.account S) receiver amount n
        call.2.2.service.registry ∧
      n ≤ unanswered trips call.2.2.made + 1 ∧
      ∀ channel, call.1 = .ok channel → 1 ≤ n ∧
        (AdmittedUpto S trips c s receiver amount call.2.2.made →
          n = unanswered trips call.2.2.made + 1) := by
  refine submit_induction (q := fundingOf S c receiver amount)
    (P := fun sent => sent = Remote.attempted S trips (fundingOf S c receiver amount) c s sent.2.made ∧
      ∃ n, FundedSoFar S trips c s receiver amount n sent.2)
    (Q := fun result t => ∃ n,
      Registry.FundedTimes s.registry (c.account S) receiver amount n t.service.registry ∧
      n ≤ unanswered trips t.made + 1 ∧ ∀ channel : Channel, result = .ok channel →
        1 ≤ n ∧ (AdmittedUpto S trips c s receiver amount t.made →
          n = unanswered trips t.made + 1))
    ?_ ?_ ?_ ⟨rfl, 0, .zero _ _ _ _, Nat.le_refl _, fun _ => .inl rfl⟩
  · rintro sent delivery sent' channel ⟨-, n, hn⟩ - ha hverdict
    obtain ⟨hfunded, hle, heach⟩ := hn.success ha hverdict
    refine ⟨n + 1, hfunded, by omega, fun _ _ => ⟨Nat.le_add_left 1 n, fun hadmitted => ?_⟩⟩
    rw [heach hadmitted]
  · rintro sent delivery sent' failure ⟨-, n, hn⟩ - ha
    have hle := hn.le
    have hmore := ha.unanswered_le
    rcases hn.funded.attempted ha with hsame | honce
    · exact ⟨n, hsame, by omega, by rintro channel ⟨⟩⟩
    · exact ⟨n + 1, honce, by omega, by rintro channel ⟨⟩⟩
  · rintro sent delivery sent' isLost failure ⟨hsent, n, hn⟩ hpost ha hverdict
    have hnext : sent' = Remote.attempted S trips (fundingOf S c receiver amount) c s
        (sent.2.made + 1) := by
      rw [attempted_succ, ← hsent, hpost]
    rw [ha.made]
    exact ⟨hnext, hn.again (congrArg Prod.snd hsent.symm) (congrArg Prod.snd hnext.symm) ha hverdict⟩

/-- a first answer gets lost, and the second one does not: the funding is made twice -/
theorem addBalance_retried_unanswered :
    let c := Client.start ⟨List.replicate 32 1, List.length_replicate⟩ .standard
    let s : Service := { Service.start (.ofList [(.repeated 1, ⟨100, by decide⟩)]) ⟨300, by decide⟩ with
      registry := ((Registry.ofLedger (.ofList [(.repeated 1, ⟨100, by decide⟩)])).openChannel
        (.repeated 1) (.repeated 2) ⟨30, by decide⟩ ⟨10, by decide⟩).2 }
    let trips (i : Nat) : Trip :=
      ⟨Word.one, Word.one, if i = 0 then .unanswered "timed out" else .delivered⟩
    let call := Client.addBalance .tagging (Remote.transport .tagging trips) (.repeated 2)
      ⟨10, by decide⟩ c ⟨s, 0⟩
    AdmittedUpto .tagging trips c s (.repeated 2) ⟨10, by decide⟩ call.2.2.made ∧
      call.1.isOk = true ∧ Registry.FundedTimes s.registry (.repeated 1) (.repeated 2)
        ⟨10, by decide⟩ 2 call.2.2.service.registry := by
  intro c s trips call
  have hrun : call.2.2.made = 2 ∧ call.1.isOk = true := by decide +kernel
  obtain ⟨hmade, hok⟩ := hrun
  have hadmitted : AdmittedUpto .tagging trips c s (.repeated 2) ⟨10, by decide⟩ call.2.2.made := by
    rw [hmade]
    intro i hi
    obtain rfl | rfl : i = 0 ∨ i = 1 := by omega
    · exact ⟨by decide +kernel, by decide +kernel, by decide +kernel⟩
    · exact ⟨by decide +kernel, by decide +kernel, by decide +kernel⟩
  have hcount : unanswered trips call.2.2.made + 1 = 2 := by
    rw [hmade]
    decide
  obtain ⟨n, hfunded, -, hexact⟩ :=
    addBalance_retried .tagging trips c s (.repeated 2) ⟨10, by decide⟩
  cases hresult : call.1 with
  | error failure =>
    rw [hresult] at hok
    cases hok
  | ok channel =>
    obtain rfl : n = 2 := ((hexact channel hresult).2 hadmitted).trans hcount
    exact ⟨hadmitted, rfl, hfunded⟩

/-! ## A funding that is made twice -/

/-- a funding whose first answer gets lost is asked for twice, and what the second one gets is what the
call returns -/
theorem addBalance_asked_twice {S : SignatureScheme} {trips : Nat → Trip} {c : Client} {s : Service}
    {receiver : Account} {amount : Amount} {spare : Nat} {reason : String}
    (hpolicy : c.policy.spare = spare + 1) (hfirst : (trips 0).fate = .unanswered reason)
    (hsecond : (trips 1).fate = .delivered)
    (hadmitted : AdmittedUpto S trips c s receiver amount 2) :
    let call := Client.addBalance S (Remote.transport S trips) receiver amount c ⟨s, 0⟩
    let once := (s.registry.addBalance (c.account S) receiver amount).2
    let twice := once.addBalance (c.account S) receiver amount
    call.1 = twice.1.mapError .rejected ∧ call.2.2.made = 2 ∧
      call.2.2.service.registry = twice.2 := by
  intro call once twice
  let q := fundingOf S c receiver amount
  let send := Client.post S (Remote.transport S trips) q.route.path q.body
  let again := Remote.attempted S trips q c s 1
  have hmade : again.2.made = 1 :=
    (attempted_post S trips q (Json.decode Channel) c ⟨s, 0⟩).made
  have hregistry : again.2.service.registry = once :=
    registry_of_unanswered (t := ⟨s, 0⟩) rfl rfl (hadmitted.of_le (Nat.le_succ 1))
      (congrArg Fate.isUnanswered hfirst)
  obtain ⟨hverdict, hdone⟩ := post_of_delivered ⟨c.account S, receiver, amount⟩
    (congrArg S.account secret_attempted) (hadmitted 1 (Nat.lt_succ_self 1))
    (show (trips again.2.made).fate = .delivered from hmade ▸ hsecond)
  have hcall : call = (twice.1.mapError .rejected, (send again).2) := by
    have hlost : verdict (Json.decode Channel) (send (c, ⟨s, 0⟩)).1
        = .again true (.transport reason) :=
      congrArg (fun posted => verdict (Json.decode Channel) posted.1) (post_of_unanswered q _ hfirst)
    show attempts c.policy (Json.decode Channel) send _ c.policy.spare 1 _ = _
    rw [hregistry] at hverdict
    rw [hpolicy, attempts_of_again hlost]
    exact attempts_of_final hverdict c.policy _ _ _
  rw [hcall]
  refine ⟨rfl, ?_, ?_⟩
  · have hnext := (attempted_post S trips q (Json.decode Channel) again.1 again.2).made
    rw [hmade] at hnext
    exact hnext
  · rw [hregistry] at hdone
    exact hdone

theorem admittedUpto_two {S : SignatureScheme} {trips : Nat → Trip} {c c' : Client} {s : Service}
    {receiver : Account} {amount : Amount} {reason : String} {timestamp timestamp' : Millis}
    (hlost : (trips 0).fate = .unanswered reason)
    (hclock : c.nextTimestamp (trips 0).sent = (timestamp, c'))
    (hclock' : (c'.nextTimestamp (trips 1).sent).1 = timestamp')
    (hfirst : Acceptable S s (trips 0).arrived c timestamp (fundingOf S c receiver amount))
    (hsecond : Acceptable S (s.handle S (trips 0).arrived (c.message S timestamp
        (fundingOf S c receiver amount) .addBalance)).2 (trips 1).arrived c' timestamp'
      (fundingOf S c receiver amount)) : AdmittedUpto S trips c s receiver amount 2 := by
  have hposted := post_of_unanswered (S := S) (fundingOf S c receiver amount) (c, ⟨s, 0⟩) hlost
  dsimp only at hposted
  rw [hclock] at hposted
  intro i hi
  obtain rfl | rfl : i = 0 ∨ i = 1 := by omega
  · show Acceptable S s (trips 0).arrived c (c.nextTimestamp (trips 0).sent).1 _
    rw [hclock]
    exact hfirst
  · have hagain : Remote.attempted S trips (fundingOf S c receiver amount) c s 1 = (c',
        ⟨(s.handle S (trips 0).arrived (c.message S timestamp
          (fundingOf S c receiver amount) .addBalance)).2, 1⟩) := congrArg Prod.snd hposted
    rw [hagain]
    show Acceptable S _ (trips 1).arrived c' (c'.nextTimestamp (trips 1).sent).1 _
    rw [hclock']
    exact hsecond

/-- the answer to a first funding of 10 gets lost, and a millisecond later the second one is answered:
the call succeeds, and 20 have been moved -/
theorem addBalance_funded_twice :
    let secret : Secret := ⟨List.replicate 32 1, by decide⟩
    let ends : Ends := ⟨ed25519.account secret, .repeated 2⟩
    let amount : Amount := ⟨10, by decide⟩
    let c := Client.start secret .standard
    let opening : Operation :=
      .openChannel ends.sender ends.receiver ⟨40, by decide⟩ ⟨10, by decide⟩
    let fresh := Service.start (.ofList [(ends.sender, ⟨100, by decide⟩)]) ⟨300, by decide⟩
    let s : Service := { fresh with registry := (fresh.registry.perform ed25519 opening).2 }
    let trips (i : Nat) : Trip := if i = 0 then ⟨Word.one, Word.one, .unanswered "timed out"⟩
      else ⟨⟨2, by decide⟩, ⟨2, by decide⟩, .delivered⟩
    let call := Client.addBalance ed25519 (Remote.transport ed25519 trips) ends.receiver amount c
      ⟨s, 0⟩
    let r := call.2.2.service.registry
    Service.Reachable ed25519 s ∧
      AdmittedUpto ed25519 trips c s ends.receiver amount call.2.2.made ∧ call.1.isOk = true ∧
      (s.registry.ledger.free ends.sender).val = 60 ∧ (r.ledger.free ends.sender).val = 40 ∧
      (s.registry.balanceAt ends).val = 40 ∧ (r.balanceAt ends).val = 60 ∧
      ¬ (s.registry.ledger.free ends.sender).val ≤ (r.ledger.free ends.sender).val + amount.val := by
  intro secret ends amount c opening fresh s trips
  let q := fundingOf ed25519 c ends.receiver amount
  have hreachable : Service.Reachable ed25519 s := .asked (.start _ _) opening
  have hfirst : Acceptable ed25519 s Word.one c Word.one q :=
    ⟨by decide +kernel, by decide +kernel, by decide +kernel⟩
  let s' := (s.handle ed25519 Word.one (c.message ed25519 Word.one q .addBalance)).2
  have harrives : (⟨2, by decide⟩ : Millis).distance ⟨2, by decide⟩ ≤ s'.window.val ∧
      (s'.replay.prune s'.window ⟨2, by decide⟩).seen.get?
        (ed25519.signRequest c.secret ⟨2, by decide⟩ q.body) = none := by decide +kernel
  have hsecond : Acceptable ed25519 s' ⟨2, by decide⟩ { c with lastTimestamp := Word.one }
      ⟨2, by decide⟩ q := ⟨by decide +kernel, harrives.1, harrives.2⟩
  have hadmitted : AdmittedUpto ed25519 trips c s ends.receiver amount 2 :=
    admittedUpto_two rfl rfl rfl hfirst hsecond
  have hcall := addBalance_asked_twice (c := c) rfl rfl rfl hadmitted
  generalize Client.addBalance ed25519 (Remote.transport ed25519 trips) ends.receiver amount c ⟨s, 0⟩
    = call at hcall ⊢
  obtain ⟨hresult, hmade, hregistry⟩ := hcall
  generalize htwice : (s.registry.addBalance (c.account ed25519) ends.receiver amount).2.addBalance
    (c.account ed25519) ends.receiver amount = twice at hresult hregistry
  have hbefore : (s.registry.ledger.free ends.sender).val = 60 ∧
      (s.registry.balanceAt ends).val = 40 := by decide +kernel
  have hafter : (twice.1.mapError Failure.rejected).isOk = true ∧
      (twice.2.ledger.free ends.sender).val = 40 ∧ (twice.2.balanceAt ends).val = 60 := by
    rw [← htwice]
    decide +kernel
  obtain ⟨hok, hfree, hbalance⟩ := hafter
  dsimp only
  rw [hresult, hmade, hregistry, hbefore.1, hfree]
  exact ⟨hreachable, hadmitted, hok, rfl, rfl, hbefore.2, hbalance, by decide⟩

end PayChannel
