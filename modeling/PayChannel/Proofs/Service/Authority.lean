import Mathlib
import PayChannel.Proofs.Registry.Entitlement
import PayChannel.Proofs.Service.Admission

/-!
# Who changes what a service keeps

Whatever a service has been through: if a request changes its registry, then the request was signed,
fresh and successful, and its signer was entitled to what was done.

* `Service.Reachable`    the states that a service can get into;
* `SignedRequest.Entitled`    which signer may ask for what;
* `Service.Authorised`    all that is known of a request that has changed something;
* `Service.change_authorised`    nothing else changes anything.
-/

set_option linter.unusedSectionVars false

namespace PayChannel

namespace SignedRequest

/-- the signer is one who may ask this; of the channels that are closed as expired it is a party -/
def Entitled (signer : Account) (r r' : Registry BalanceSheet) : SignedRequest → Prop
  | openChannel q => signer = q.sender
  | addBalance q => signer = q.sender
  | claim q => signer = q.receiver
  | closeChannel q => signer = q.sender ∨ signer = q.receiver
  | closeExpired q => signer = q.caller ∧
    ∀ ends c, r.channels.get? ends = some c → r'.channels.get? ends ≠ some c →
      signer = c.sender ∨ signer = c.receiver

theorem exists_of_map_eq_ok {ε α β : Type} {f : α → β} {found : Except ε α} {b : β}
    (h : found.map f = .ok b) : ∃ a, f a = b := by
  cases found with
  | error flaw => cases h
  | ok a => exact ⟨a, Except.ok.inj h⟩

theorem route_of_decode {body : Bytes} {route : SignedRoute} {q : SignedRequest}
    (h : decode body route = .ok q) : q.route = route := by
  cases route <;>
    · obtain ⟨found, rfl⟩ := exists_of_map_eq_ok h
      rfl

theorem not_of_guard {p : Prop} [Decidable p] {refusal : Refusal} {rest : Except Refusal Unit}
    (h : (if p then .error refusal else rest) = .ok ()) : ¬ p := by
  intro hp
  rw [if_pos hp] at h
  cases h

theorem entitled_of_check (S : SignatureScheme) {r : Registry BalanceSheet} (hf : r.Filed)
    {signer : Account} {q : SignedRequest} (h : q.check signer = .ok ()) :
    q.Entitled signer r (r.perform S (q.operation signer)).2 := by
  cases q with
  | openChannel q => exact Classical.not_not.mp (not_of_guard (p := signer ≠ q.sender) h)
  | addBalance q => exact Classical.not_not.mp (not_of_guard (p := signer ≠ q.sender) h)
  | claim q => exact Classical.not_not.mp (not_of_guard (p := signer ≠ q.receiver) h)
  | closeChannel q =>
    have hnot := not_of_guard (p := signer ≠ q.sender ∧ signer ≠ q.receiver) h
    by_cases hsender : signer = q.sender
    · exact .inl hsender
    · exact .inr (Classical.not_not.mp fun hne => hnot ⟨hsender, hne⟩)
  | closeExpired q =>
    obtain rfl : signer = q.caller :=
      Classical.not_not.mp (not_of_guard (p := signer ≠ q.caller) h)
    exact ⟨rfl, fun ends c hc hchange => Registry.party_closeExpired hf hc hchange⟩

end SignedRequest

namespace Service

open Http

/-- the states of a service: it has answered requests, finished some whose bodies came late, been
asked directly by what runs it, and seen its ledger change on its own -/
inductive Reachable (S : SignatureScheme) : Service → Prop
  | start (ledger : BalanceSheet) (ttl : Word 64) : Reachable S (start ledger ttl)
  | handled {s : Service} (h : Reachable S s) (now : Millis) (request : Request) :
    Reachable S (s.handle S now request).2
  | finished {s : Service} (h : Reachable S s) (now : Millis) (credentials : Credentials)
      (route : SignedRoute) (request : Request) :
    Reachable S (s.finish S now credentials route request).2
  | asked {s : Service} (h : Reachable S s) (operation : Operation) :
    Reachable S { s with registry := (s.registry.perform S operation).2 }
  | elapsed {s : Service} (h : Reachable S s) (change : BalanceSheet → BalanceSheet) :
    Reachable S (s.withLedger change)

theorem Reachable.filed {S : SignatureScheme} {s : Service} (h : Reachable S s) :
    s.registry.Filed := by
  induction h with
  | start ledger ttl => exact Registry.filed_ofLedger ledger
  | @handled s _ now request ih =>
    rcases s.handle_cases S now request with hsame | ⟨route, credentials, q, -, hperformed⟩
    · rw [hsame]
      exact ih
    · rw [hperformed.registry]
      exact Registry.filed_perform S ih _
  | @finished s _ now credentials route request ih =>
    rcases s.finish_cases S now credentials route request with ⟨-, hsame⟩ | ⟨-, -, q, hperformed, -⟩
    · rw [hsame]
      exact ih
    · rw [hperformed.registry]
      exact Registry.filed_perform S ih _
  | asked _ operation ih => exact Registry.filed_perform S ih operation
  | elapsed _ change ih => exact ih

/-- what is known of a request that has changed the registry: how it got in, what it asked for, that
its signer was entitled to it and that it was done, and whose funds have become less -/
structure Authorised (S : SignatureScheme) (s : Service) (now : Millis) (request : Request)
    (response : Response) (s' : Service) (route : SignedRoute) (credentials : Credentials)
    (q : SignedRequest) : Prop extends Admitted S s now request route credentials where
  near : now.distance credentials.timestamp ≤ s.ttl.val * 1000
  signed : S.verify credentials.signer
    (Bytes.bigEndian 8 credentials.timestamp.val ++ request.body) credentials.signature = true
  decoded : SignedRequest.decode request.body route = .ok q
  entitled : q.Entitled credentials.signer s.registry s'.registry
  success : response.status = 200
  free : ∀ a, (s'.registry.ledger.free a).val < (s.registry.ledger.free a).val →
    credentials.signer = a ∧ (route = .openChannel ∨ route = .addBalance)
  wealth : s.registry.worth < 2 ^ 128 → ∀ a, s'.registry.wealth a < s.registry.wealth a →
    ∃ p c, q = .claim p ∧ p.sender = a ∧ p.receiver = credentials.signer ∧
      Registry.Vouched S s.registry a credentials.signer p.sessionId p.amount p.signature c
        s'.registry

theorem near_of_window {s : Service} {now timestamp : Millis}
    (h : now.distance timestamp ≤ s.window.val) : now.distance timestamp ≤ s.ttl.val * 1000 := by
  refine Nat.le_trans h ?_
  unfold window
  rw [Word.val_satMul]
  exact Nat.min_le_left _ _

/-- who has lost free balance has signed the request to lock it -/
theorem signer_of_free_lt {S : SignatureScheme} {r : Registry BalanceSheet} {signer a : Account}
    {route : SignedRoute} {q : SignedRequest} (hroute : q.route = route)
    (hcheck : q.Entitled signer r (r.perform S (q.operation signer)).2)
    (hloss : ((r.perform S (q.operation signer)).2.ledger.free a).val < (r.ledger.free a).val) :
    signer = a ∧ (route = .openChannel ∨ route = .addBalance) := by
  have hpayer : (q.operation signer).payer = some a := by
    by_contra hne
    exact absurd hloss (Nat.not_lt.mpr (Registry.free_perform S r hne))
  cases q with
  | openChannel q => exact ⟨Eq.trans hcheck (Option.some.inj hpayer), .inl hroute.symm⟩
  | addBalance q => exact ⟨Eq.trans hcheck (Option.some.inj hpayer), .inr hroute.symm⟩
  | claim | closeChannel | closeExpired => cases hpayer

/-- who owns less has signed a voucher, and the signer has claimed with it -/
theorem vouched_of_wealth_lt {S : SignatureScheme} {r : Registry BalanceSheet} (hf : r.Filed)
    (hw : r.worth < 2 ^ 128) {signer a : Account} {q : SignedRequest}
    (hcheck : q.Entitled signer r (r.perform S (q.operation signer)).2)
    (hloss : (r.perform S (q.operation signer)).2.wealth a < r.wealth a) :
    ∃ p c, q = .claim p ∧ p.sender = a ∧ p.receiver = signer ∧
      Registry.Vouched S r a signer p.sessionId p.amount p.signature c
        (r.perform S (q.operation signer)).2 := by
  obtain ⟨receiver, sessionId, amount, signature, c, hop, hvouched⟩ :=
    Registry.wealth_perform S hf hw hloss
  cases q with
  | claim p =>
    cases hop
    obtain rfl : signer = p.receiver := hcheck
    exact ⟨p, c, rfl, rfl, rfl, hvouched⟩
  | openChannel | addBalance | closeChannel | closeExpired => cases hop

/-- a request that changes anything in the registry of a service has been authorised -/
theorem change_authorised (S : SignatureScheme) {s : Service} (hs : Reachable S s) (now : Millis)
    (request : Request) (hchange : (s.handle S now request).2.registry ≠ s.registry) :
    ∃ route credentials q, Authorised S s now request (s.handle S now request).1
      (s.handle S now request).2 route credentials q := by
  rcases s.handle_cases S now request with hsame | ⟨route, credentials, q, hadmitted, hperformed⟩
  · exact absurd hsame hchange
  have hentitled := SignedRequest.entitled_of_check S hs.filed hperformed.checked
  have hafter := hperformed.registry
  refine ⟨route, credentials, q, hadmitted, near_of_window hadmitted.presented.near,
    hadmitted.authentic.verified, hperformed.decoded, ?_, ?_, ?_, ?_⟩
  · rw [hafter]
    exact hentitled
  · rcases hperformed.status with ⟨refusal, hrefused⟩ | hsuccess
    · exact absurd (hafter.trans (Registry.perform_refused hrefused)) hchange
    · exact hsuccess
  · intro a hloss
    rw [hafter] at hloss
    exact signer_of_free_lt (SignedRequest.route_of_decode hperformed.decoded) hentitled hloss
  · intro hw a hloss
    rw [hafter] at hloss ⊢
    exact vouched_of_wealth_lt hs.filed hw hentitled hloss

/-- somebody opens a channel to somebody else, and is answered that it is open -/
theorem change_authorised_open :
    let secret : Secret := ⟨List.replicate 32 1, by decide⟩
    let ends : Ends := ⟨ed25519.account secret, .repeated 2⟩
    let s := start (BalanceSheet.ofList [(ends.sender, ⟨100, by decide⟩)]) ⟨300, by decide⟩
    let opening : SignedRequest :=
      .openChannel ⟨ends.sender, ends.receiver, ⟨40, by decide⟩, ⟨10, by decide⟩⟩
    let message := (Client.start secret .none).message ed25519 Word.one opening .openChannel
    Reachable ed25519 s ∧ (s.handle ed25519 Word.one message).2.registry ≠ s.registry ∧
      (s.handle ed25519 Word.one message).1.status = 200 := by
  intro secret ends s opening message
  have hs : Reachable ed25519 s := .start _ _
  have hchange : (s.handle ed25519 Word.one message).2.registry ≠ s.registry := by
    have hopen : ((s.handle ed25519 Word.one message).2.registry.channels.get? ends).isSome
        = true := by decide +kernel
    intro hsame
    rw [hsame] at hopen
    cases hopen
  obtain ⟨route, credentials, q, hauthorised⟩ :=
    change_authorised ed25519 hs Word.one message hchange
  exact ⟨hs, hchange, hauthorised.success⟩

end Service
end PayChannel
