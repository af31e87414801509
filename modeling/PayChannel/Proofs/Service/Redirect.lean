import Mathlib
import PayChannel.Proofs.Json.Objects
import PayChannel.Proofs.Service.Admission

/-!
# Signed requests on other routes

A signature covers the time and the body of a request, not its path.  So a message that was made for
one route can be sent to another, and what counts there is whether its body can be read: a reader
skips the fields it does not know, and a body has to have all the fields it asks for.

* `SignedRequest.readAs`    a request as another route reads it, if it can;
* `decode_body`    that is what the service does with the body;
* `redirect_changes`    what a message can do on a route that it was not made for.
-/

set_option linter.unusedSectionVars false

namespace PayChannel

namespace SignedRequest

/-- a request as a route reads it: the fields that the route asks for -/
def readAs : SignedRequest → SignedRoute → Option SignedRequest
  | openChannel q, .openChannel => some (openChannel q)
  | openChannel q, .addBalance => some (addBalance ⟨q.sender, q.receiver, q.amount⟩)
  | openChannel q, .closeChannel => some (closeChannel ⟨q.sender, q.receiver⟩)
  | addBalance q, .addBalance => some (addBalance q)
  | addBalance q, .closeChannel => some (closeChannel ⟨q.sender, q.receiver⟩)
  | claim q, .claim => some (claim q)
  | claim q, .addBalance => some (addBalance ⟨q.sender, q.receiver, q.amount⟩)
  | claim q, .closeChannel => some (closeChannel ⟨q.sender, q.receiver⟩)
  | closeChannel q, .closeChannel => some (closeChannel q)
  | closeExpired q, .closeExpired => some (closeExpired q)
  | _, _ => none

/-- the routes that can read what was made for another one -/
def redirects : List (SignedRoute × SignedRoute) :=
  [(.openChannel, .addBalance), (.openChannel, .closeChannel), (.addBalance, .closeChannel),
    (.claim, .addBalance), (.claim, .closeChannel)]

theorem readAs_eq_none (q : SignedRequest) (route : SignedRoute) (hne : route ≠ q.route)
    (h : (q.route, route) ∉ redirects) : q.readAs route = none := by
  cases q <;> cases route <;>
    first
      | rfl
      | exact absurd rfl hne
      | exact absurd (List.mem_of_elem_eq_true rfl) h

theorem decode_body (q : SignedRequest) (route : SignedRoute) :
    decode q.body route = match q.readAs route with
      | some q' => .ok q'
      | none => .error .unfit := by
  -- shared fields have the same kind in all five layouts, so one lemma serves the 25 pairs
  cases q <;> cases route <;>
    exact congrArg (Except.map _) (Json.decodeStart_write (by decide) _)

end SignedRequest

/-! ## Messages -/

theorem ofPath?_path (route : SignedRoute) :
    Route.ofPath? (Http.path (Bytes.ofString route.path)) = some (.signed route) := by
  cases route <;> cbv

section
variable (S : SignatureScheme) (c : Client) (timestamp : Millis) (q : SignedRequest)
  (route : SignedRoute)

theorem header?_signer : Http.header? (c.message S timestamp q route).headers Auth.signerHeader
    = some (Hex.encode (c.account S).bytes) := by
  have hother : Ascii.sameLetters (Bytes.ofString "Content-Type")
      (Bytes.ofString Auth.signerHeader) = false := by cbv
  have hsame : Ascii.sameLetters (Bytes.ofString Auth.signerHeader)
      (Bytes.ofString Auth.signerHeader) = true := by cbv
  unfold Http.header? Client.message Transport.postRequest Client.signedHeaders
  rw [List.find?_cons_of_neg (by simpa [Transport.header] using hother), List.map_cons,
    List.find?_cons_of_pos (by simpa [Transport.header] using hsame)]
  exact congrArg some (Bytes.ofString_hexText (c.account S).bytes)

theorem signer_of_presented {window now : Millis} {credentials : Credentials}
    (h : Service.Presented window now (c.message S timestamp q route).headers credentials) :
    credentials.signer = c.account S := by
  obtain ⟨value, hheader, hspelled⟩ := h.signer
  rw [header?_signer] at hheader
  cases hheader
  rw [Account.ofText_encode] at hspelled
  exact (Except.ok.inj hspelled).symm

/-- on any route, a message leaves the registry alone or has it do what the route reads -/
theorem handle_redirected (s : Service) (now : Millis) :
    (s.handle S now (c.message S timestamp q route)).2.registry = s.registry ∨
    ∃ q', q.readAs route = some q' ∧ q'.check (c.account S) = .ok () ∧
      (s.handle S now (c.message S timestamp q route)).2.registry
        = (s.registry.perform S (q'.operation (c.account S))).2 := by
  rcases s.handle_cases S now (c.message S timestamp q route) with
    hsame | ⟨route', credentials, q', hadmitted, hperformed⟩
  · exact .inl hsame
  · right
    obtain rfl : route = route' := by
      have hpath := (ofPath?_path route).symm.trans hadmitted.path
      cases hpath
      rfl
    have hsigner := signer_of_presented S c timestamp q route hadmitted.presented
    have hdecoded := (q.decode_body route).symm.trans hperformed.decoded
    refine ⟨q', ?_, hsigner ▸ hperformed.checked, hsigner ▸ hperformed.registry⟩
    cases hread : q.readAs route with
    | none =>
      rw [hread] at hdecoded
      cases hdecoded
    | some found =>
      rw [hread] at hdecoded
      cases hdecoded
      rfl

end

/-- a message on a route that it was not made for changes nothing, unless the route can read it; then
the registry at most does what the route reads, which its check allows the signer -/
theorem redirect_changes (S : SignatureScheme) (s : Service) (now : Millis) (c : Client)
    (timestamp : Millis) (q : SignedRequest) (route : SignedRoute) (hne : route ≠ q.route) :
    let registry := (s.handle S now (c.message S timestamp q route)).2.registry
    ((q.route, route) ∉ SignedRequest.redirects → registry = s.registry) ∧
    (registry = s.registry ∨ ∃ q', q.readAs route = some q' ∧ q'.check (c.account S) = .ok () ∧
      registry = (s.registry.perform S (q'.operation (c.account S))).2) := by
  have hcases := handle_redirected S c timestamp q route s now
  refine ⟨fun hnot => ?_, hcases⟩
  rcases hcases with hsame | ⟨q', hread, -⟩
  · exact hsame
  · rw [SignedRequest.readAs_eq_none q route hne hnot] at hread
    cases hread

/-- a service on which one account has opened a channel of 40 to another, for ten blocks -/
def Service.withChannel (S : SignatureScheme) (ends : Ends) : Service :=
  let s := start (BalanceSheet.ofList [(ends.sender, Word.clip 100)]) (Word.clip 300)
  let opening := Operation.openChannel ends.sender ends.receiver (Word.clip 40) (Word.clip 10)
  { s with registry := (s.registry.perform S opening).2 }

/-- a claim that is good on its own route cannot be read on the route that opens channels -/
theorem redirect_changes_claim :
    let payer : Secret := ⟨List.replicate 32 1, by decide⟩
    let payee : Secret := ⟨List.replicate 32 2, by decide⟩
    let ends : Ends := ⟨ed25519.account payer, ed25519.account payee⟩
    let s := Service.withChannel ed25519 ends
    let voucher := ed25519.voucher payer ends.receiver Word.zero Word.one ⟨7, by decide⟩
    let claim := SignedRequest.claim
      ⟨ends.sender, ends.receiver, voucher.sessionId, voucher.amount, voucher.signature⟩
    let message (route : SignedRoute) :=
      (Client.start payee .none).message ed25519 Word.one claim route
    .openChannel ≠ claim.route ∧
      (s.handle ed25519 Word.one (message .openChannel)).2.registry = s.registry ∧
      (s.handle ed25519 Word.one (message claim.route)).2.registry.balanceAt ends
        = ⟨33, by decide⟩ := by
  intro payer payee ends s voucher claim message
  have hne : .openChannel ≠ claim.route := by decide
  exact ⟨hne, (redirect_changes ed25519 s Word.one _ Word.one claim .openChannel hne).1
    (by decide), by decide +kernel⟩

/-- but on the route that closes channels, the same claim closes the channel -/
theorem redirect_not_harmless :
    let payer : Secret := ⟨List.replicate 32 1, by decide⟩
    let payee : Secret := ⟨List.replicate 32 2, by decide⟩
    let ends : Ends := ⟨ed25519.account payer, ed25519.account payee⟩
    let s := Service.withChannel ed25519 ends
    let voucher := ed25519.voucher payer ends.receiver Word.zero Word.one ⟨7, by decide⟩
    let claim := SignedRequest.claim
      ⟨ends.sender, ends.receiver, voucher.sessionId, voucher.amount, voucher.signature⟩
    let message :=
      (Client.start payee .none).message ed25519 Word.one claim .closeChannel
    .closeChannel ≠ claim.route ∧ (s.handle ed25519 Word.one message).2.registry ≠ s.registry := by
  intro payer payee ends s voucher claim message
  refine ⟨by decide, fun hsame => ?_⟩
  have hopen : (s.registry.channels.get? ends).isSome = true := by decide +kernel
  have hgone : ((s.handle ed25519 Word.one message).2.registry.channels.get? ends).isSome
      = false := by decide +kernel
  rw [hsame, hopen] at hgone
  cases hgone

end PayChannel
