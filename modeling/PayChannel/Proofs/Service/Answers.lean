import Mathlib
import PayChannel.Proofs.Json.Extent
import PayChannel.Proofs.Json.RoundTrip
import PayChannel.Proofs.Service.Paths
import PayChannel.Proofs.Service.Redirect

/-!
# What a client's own requests are answered

The headers that a client puts on a request say what the service reads from them, and the body of a
request is far below the limit.  So a request is let in if its signature verifies, its timestamp is
inside the window and the replay cache does not know its signature.  The check that comes next
repeats some of the registry's own, with the same verdicts, and so the answer is the registry's.

* `readCredentials_message`    what the service reads from a client's headers;
* `Acceptable`, `handle_message`    a request that is let in;
* `Settled`, `perform_body`    its answer is the registry's;
* `handle_get`    reads.
-/

set_option linter.unusedSectionVars false

namespace PayChannel

open Http

/-! ## Headers -/

theorem parseWord?_digits {bits : Nat} (w : Word bits) :
    Decimal.parseWord? bits (Decimal.digits w.val) = some w := by
  obtain ⟨d, ds, hdigits, hd, -⟩ := Json.digits_eq_cons w.val
  have hplus : d ≠ Ascii.plus := by
    rintro rfl
    cases hd
  have hall : (Decimal.digits w.val).all Ascii.isDigit = true :=
    List.all_eq_true.mpr (Decimal.isDigit_of_mem_digits w.val)
  have hvalue := Decimal.value_digits w.val
  rw [hdigits] at hall hvalue ⊢
  unfold Decimal.parseWord?
  simp only [if_neg hplus]
  rw [if_pos ⟨List.cons_ne_nil _ _, hall⟩, hvalue, Word.ofNat?_val]

theorem ofString_decimalText (n : Nat) : Bytes.ofString (Decimal.text n) = Decimal.digits n :=
  Bytes.ofString_text _ fun b hb =>
    UInt8.lt_trans (isPlain_digits b hb).high (by decide : (127 : UInt8) < 128)

theorem header?_header_cons (h : String × String) (rest : List Header) (name : String) :
    header? (Transport.header h :: rest) name
      = if Ascii.sameLetters (Bytes.ofString h.1) (Bytes.ofString name) then
          some (Bytes.ofString h.2)
        else header? rest name := by
  unfold header?
  rw [List.find?_cons]
  split
  · rename_i heq
    have hsame : Ascii.sameLetters (Bytes.ofString h.1) (Bytes.ofString name) = true := heq
    rw [if_pos hsame]
    rfl
  · rename_i heq
    have hother : Ascii.sameLetters (Bytes.ofString h.1) (Bytes.ofString name) = false := heq
    rw [hother, if_neg Bool.false_ne_true]

section
variable (S : SignatureScheme) (c : Client) (timestamp : Millis) (q : SignedRequest)
  (route : SignedRoute)

def Client.credentials : Credentials where
  signer := c.account S
  timestamp := timestamp
  signature := S.signRequest c.secret timestamp q.body

theorem header?_message (name : String) :
    header? (c.message S timestamp q route).headers name =
      let is (other : String) := Ascii.sameLetters (Bytes.ofString other) (Bytes.ofString name)
      if is "Content-Type" then some (Bytes.ofString "application/json")
      else if is Auth.signerHeader then some (Hex.encode (c.account S).bytes)
      else if is Auth.timestampHeader then some (Decimal.digits timestamp.val)
      else if is Auth.signatureHeader then
        some (Hex.encode (S.signRequest c.secret timestamp q.body))
      else none := by
  unfold Client.message Transport.postRequest Client.signedHeaders
  dsimp only
  rw [header?_header_cons, List.map_cons, header?_header_cons, List.map_cons, header?_header_cons,
    List.map_cons, header?_header_cons, List.map_nil]
  dsimp only
  rw [Account.toHex, Bytes.ofString_hexText, Bytes.ofString_hexText, ofString_decimalText]
  rfl

theorem required_eq_of_visible {headers : List Header} {name : String} {value : Bytes}
    (h : header? headers name = some value) (hvisible : isVisible value = true) :
    Auth.required headers name = .ok value := by
  unfold Auth.required
  rw [h]
  exact if_pos hvisible

theorem readSigner_message :
    Auth.readSigner (c.message S timestamp q route).headers = .ok (c.account S) := by
  have hheader := header?_message S c timestamp q route Auth.signerHeader
  dsimp only at hheader
  rw [if_neg (by decide_cbv), if_pos (by decide_cbv)] at hheader
  unfold Auth.readSigner
  rw [required_eq_of_visible hheader (isVisible_of_plain isPlain_encode)]
  dsimp only
  rw [Account.ofText_encode]

theorem readTimestamp_message :
    Auth.readTimestamp (c.message S timestamp q route).headers = .ok timestamp := by
  have hheader := header?_message S c timestamp q route Auth.timestampHeader
  dsimp only at hheader
  rw [if_neg (by decide_cbv), if_neg (by decide_cbv), if_pos (by decide_cbv)]
    at hheader
  unfold Auth.readTimestamp
  rw [required_eq_of_visible hheader (isVisible_of_plain isPlain_digits)]
  dsimp only
  rw [parseWord?_digits]

theorem readSignature_message : Auth.readSignature (c.message S timestamp q route).headers
    = .ok (S.signRequest c.secret timestamp q.body) := by
  have hheader := header?_message S c timestamp q route Auth.signatureHeader
  dsimp only at hheader
  rw [if_neg (by decide_cbv), if_neg (by decide_cbv), if_neg (by decide_cbv),
    if_pos (by decide_cbv)] at hheader
  unfold Auth.readSignature
  rw [required_eq_of_visible hheader (isVisible_of_plain isPlain_encode)]
  dsimp only
  rw [Hex.dropMarks_encode, Hex.decode_encode]
  exact if_pos (S.length_sign _ _)

theorem readCredentials_message : Auth.readCredentials (c.message S timestamp q route).headers
    = .ok (c.credentials S timestamp q) := by
  unfold Auth.readCredentials
  rw [readSigner_message, readTimestamp_message, readSignature_message]
  rfl

theorem checkHeaders_message {window now : Millis} (hnear : now.distance timestamp ≤ window.val) :
    Auth.checkHeaders window now (c.message S timestamp q route).headers
      = .ok (c.credentials S timestamp q) := by
  have hnone := header?_message S c timestamp q route "Content-Length"
  dsimp only at hnone
  rw [if_neg (by decide_cbv), if_neg (by decide_cbv), if_neg (by decide_cbv),
    if_neg (by decide_cbv)] at hnone
  have hlength : Auth.declaredLength? (c.message S timestamp q route).headers = none := by
    unfold Auth.declaredLength?
    rw [hnone]
  have hinside : ¬ window.val < now.distance (c.credentials S timestamp q).timestamp :=
    Nat.not_lt.mpr hnear
  unfold Auth.checkHeaders
  rw [readCredentials_message, hlength]
  dsimp only
  rw [if_neg hinside]
  rfl

theorem saysJson_message : Service.saysJson (c.message S timestamp q route).headers = true := by
  have hheader := header?_message S c timestamp q route "Content-Type"
  dsimp only at hheader
  rw [if_pos (by decide_cbv)] at hheader
  unfold Service.saysJson
  rw [hheader]
  cbv

end

/-! ## Bodies -/

namespace SignedRequest

/-- a request whose signature, if it brings one, is no longer than one -/
def SignatureFits : SignedRequest → Prop
  | claim q => q.signature.length ≤ signatureLength
  | _ => True

theorem length_body_le {q : SignedRequest} (h : q.SignatureFits) :
    q.body.length ≤ Auth.maxBody := by
  cases q with
  | openChannel q =>
    have hlen := Json.length_write_le (a := q) (by decide_cbv)
      ⟨trivial, trivial, trivial, Nat.le_refl _, trivial⟩
    exact hlen.trans (by decide)
  | addBalance q =>
    have hlen := Json.length_write_le (a := q) (by decide_cbv)
      ⟨trivial, trivial, trivial, trivial⟩
    exact hlen.trans (by decide)
  | claim q =>
    have hlen := Json.length_write_le (a := q) (by decide_cbv)
      ⟨trivial, trivial, (by decide : 32 ≤ 64), trivial, h, trivial⟩
    exact hlen.trans (by decide)
  | closeChannel q =>
    have hlen := Json.length_write_le (a := q) (by decide_cbv) ⟨trivial, trivial, trivial⟩
    exact hlen.trans (by decide)
  | closeExpired q =>
    have hlen := Json.length_write_le (a := q) (by decide_cbv) ⟨trivial, trivial⟩
    exact hlen.trans (by decide)

end SignedRequest

/-! ## The way in -/

/-- the service may let a client's request in: the signature verifies, as under a sound scheme all do, the
timestamp is inside the window, and the replay cache does not know the signature, or only to forget it -/
structure Acceptable (S : SignatureScheme) (s : Service) (now : Millis) (c : Client)
    (timestamp : Millis) (q : SignedRequest) : Prop where
  verified : S.verifyRequest (c.account S) timestamp q.body
    (S.signRequest c.secret timestamp q.body) = true
  near : now.distance timestamp ≤ s.window.val
  fresh : (s.replay.prune s.window now).seen.get? (S.signRequest c.secret timestamp q.body) = none

namespace Service

theorem authenticate_of_authentic {S : SignatureScheme} {s : Service} {now : Millis}
    {request : Request} {credentials : Credentials}
    (h : Authentic S s now request credentials) :
    ∃ replay, Auth.authenticate S s.replay s.window now credentials request.body
      = (.ok credentials.signer, replay) := by
  have hcontains : ¬ (s.replay.prune s.window now).seen.contains credentials.signature = true := by
    unfold Table.contains
    rw [h.fresh]
    exact Bool.false_ne_true
  unfold Auth.authenticate
  rw [if_neg (Nat.not_lt.mpr h.size), h.verified, Bool.not_true, if_neg Bool.false_ne_true]
  unfold ReplayCache.check
  dsimp only
  rw [if_neg hcontains]
  exact ⟨_, rfl⟩

/-- a client's request that may be let in is performed in the client's name -/
theorem handle_message {S : SignatureScheme} {s : Service} {now : Millis} {c : Client}
    {timestamp : Millis} {q : SignedRequest} (h : Acceptable S s now c timestamp q)
    (hfits : q.SignatureFits) :
    ∃ replay, s.handle S now (c.message S timestamp q q.route)
      = ({ s with replay } : Service).perform S (c.account S) q.body q.route := by
  have harrive : s.arrive now (c.message S timestamp q q.route)
      = .waiting (c.credentials S timestamp q) q.route :=
    (s.arrive_eq_waiting_iff now _ _ _).mpr
      ⟨ofPath?_path q.route, checkHeaders_message S c timestamp q q.route h.near⟩
  have hauthentic : Authentic S s now (c.message S timestamp q q.route)
      (c.credentials S timestamp q) :=
    ⟨SignedRequest.length_body_le hfits, h.verified, h.fresh⟩
  obtain ⟨replay, hreplay⟩ := authenticate_of_authentic hauthentic
  refine ⟨replay, ?_⟩
  unfold handle
  rw [harrive]
  dsimp only
  unfold finish
  rw [hreplay, saysJson_message]
  rfl

/-! ## Answers -/

/-- the answer to a request is the result of an operation, and the registry is the one that the
operation leaves -/
structure Answered {α : Type} (write : α → Bytes)
    (result : Except Refusal α × Registry BalanceSheet) (answer : Response × Service) : Prop where
  response : answer.1 = match result.1 with
    | .ok a => ⟨200, true, write a⟩
    | .error refusal => refused refusal
  registry : answer.2.registry = result.2

section
variable {α β : Type} [Json.Record α] [Json.Record β] (s : Service)

theorem answered_outcome (result : Except Refusal β × Registry BalanceSheet) :
    Answered Json.write result (s.outcome result) := by
  rcases result with ⟨refusal | b, registry⟩
  · exact ⟨rfl, rfl⟩
  · exact ⟨rfl, rfl⟩

/-- a check makes no difference if what it refuses is refused by the operation, in the same words -/
theorem answered_withRequest (h : Json.Readable (Json.Record.layout α))
    (check : α → Except Refusal Unit) (ask : α → Except Refusal β × Registry BalanceSheet) (q : α)
    (hcheck : ∀ refusal, check q = .error refusal → ask q = (.error refusal, s.registry)) :
    Answered Json.write (ask q)
      (s.withRequest (Json.write q) check fun q => s.outcome (ask q)) := by
  unfold withRequest
  rw [Json.decodeStart_self h]
  dsimp only
  cases hq : check q with
  | error refusal =>
    rw [hcheck refusal hq]
    exact ⟨rfl, rfl⟩
  | ok u => exact s.answered_outcome (ask q)

end

section
variable (S : SignatureScheme) (s : Service)

/-- equal ends and a duration of zero are refused before the registry is asked, in its own words -/
theorem answered_openChannel (q : OpenRequest) :
    Answered Json.write (s.registry.openChannel q.sender q.receiver q.amount q.duration)
      (s.perform S q.sender (Json.write q) .openChannel) := by
  refine s.answered_withRequest (by decide) (fun q' => q'.check q.sender)
    (fun q => s.registry.openChannel q.sender q.receiver q.amount q.duration) q fun refusal h => ?_
  unfold OpenRequest.check at h
  rw [if_neg (fun hne => hne rfl)] at h
  unfold Registry.openChannel
  split at h
  · rename_i hsame
    cases h
    exact if_pos hsame
  · rename_i hdiffer
    split at h
    · rename_i hzero
      cases h
      have hexpiry : Registry.expiry? s.registry.height q.duration = none := if_pos hzero
      rw [if_neg hdiffer]
      dsimp only
      rw [hexpiry]
    · cases h

theorem answered_addBalance (q : FundRequest) :
    Answered Json.write (s.registry.addBalance q.sender q.receiver q.amount)
      (s.perform S q.sender (Json.write q) .addBalance) := by
  refine s.answered_withRequest (by decide) (fun q' => q'.check q.sender)
    (fun q => s.registry.addBalance q.sender q.receiver q.amount) q fun refusal h => ?_
  unfold FundRequest.check at h
  rw [if_neg (fun hne => hne rfl)] at h
  cases h

theorem answered_claim (q : ClaimRequest) (hlength : q.signature.length = signatureLength) :
    Answered Json.write
      (s.registry.claim S q.sender q.receiver q.sessionId q.amount q.signature)
      (s.perform S q.receiver (Json.write q) .claim) := by
  refine s.answered_withRequest (by decide) (fun q' => q'.check q.receiver)
    (fun q => s.registry.claim S q.sender q.receiver q.sessionId q.amount q.signature) q
    fun refusal h => ?_
  unfold ClaimRequest.check at h
  rw [if_neg (fun hne => hne rfl), if_neg (fun hne => hne hlength)] at h
  cases h

theorem answered_closeChannel (q : CloseRequest) (signer : Account) :
    Answered Json.write (s.registry.closeChannel signer q.sender q.receiver)
      (s.perform S signer (Json.write q) .closeChannel) := by
  refine s.answered_withRequest (by decide) (fun q' => q'.check signer)
    (fun q => s.registry.closeChannel signer q.sender q.receiver) q fun refusal h => ?_
  unfold CloseRequest.check at h
  split at h
  · rename_i hneither
    cases h
    unfold Registry.closeChannel
    exact if_pos hneither
  · cases h

theorem answered_closeExpired (q : CloseExpiredRequest) :
    Answered Json.writeList ((s.registry.closeExpired q.caller).map .ok id)
      (s.perform S q.caller (Json.write q) .closeExpired) := by
  have hcheck : q.check q.caller = .ok () := if_neg fun hne => hne rfl
  unfold perform withRequest
  rw [Json.decodeStart_self (by decide)]
  dsimp only
  rw [hcheck]
  exact ⟨rfl, rfl⟩

end

/-! ## Reads -/

/-- a read is answered at once, and changes nothing -/
theorem handle_get (S : SignatureScheme) (s : Service) (now : Millis) {path : String}
    {route : Route} (hpath : Route.ofPath? (Http.path (Bytes.ofString path)) = some route)
    (hread : ∀ signed, route ≠ .signed signed) :
    s.handle S now (Transport.getRequest path) = (s.query route, s) := by
  have harrive : s.arrive now (Transport.getRequest path) = .answered (s.query route) := by
    unfold arrive Transport.getRequest
    dsimp only
    rw [hpath]
    cases route with
    | signed signed => exact absurd rfl (hread signed)
    | health | statistics | holdings | channel | session => exact if_pos rfl
  unfold handle
  rw [harrive]

end Service
end PayChannel
