import Mathlib
import PayChannel.Client.Embedded
import PayChannel.Proofs.Json.Extent
import PayChannel.Proofs.Service.Redirect

/-!
# Signatures of vouchers and of requests

The same secret signs vouchers and requests, and no tag tells the two kinds of messages apart.  What
keeps them apart is their length.  A voucher's digest has 32 bytes, and every such string is the
message of a request with 24 bytes of body; but all five requests begin with an account, and a body
that can be read as one of them has at least the 66 bytes that an account takes.

* `length_of_decode`    how long a body is that can be read;
* `length_message`    how long a message is that a client signs;
* `AgreeAbove`, `submit_of_agree`    a client signs nothing shorter;
* `domains_apart`    a voucher's signature asks for nothing, and a request's pays nothing.
-/

set_option linter.unusedSectionVars false

namespace PayChannel

/-! ## Lengths -/

namespace SignedRequest

theorem length_of_decode {body : Bytes} {route : SignedRoute} {q : SignedRequest}
    (h : decode body route = .ok q) : 66 ≤ body.length := by
  have hrecord : ∀ {α : Type} [Json.Record α] {wrap : α → SignedRequest},
      66 ≤ Json.least (Json.Record.layout α) →
      (Json.decodeStart α body).map wrap = .ok q → 66 ≤ body.length := by
    intro α _ wrap hleast hmap
    cases hstart : Json.decodeStart α body with
    | error flaw =>
      rw [hstart] at hmap
      cases hmap
    | ok a => exact hleast.trans (Json.length_of_decodeStart hstart)
  cases route with
  | openChannel => exact hrecord (by decide) h
  | addBalance => exact hrecord (by decide) h
  | claim => exact hrecord (by decide) h
  | closeChannel => exact hrecord (by decide) h
  | closeExpired => exact hrecord (by decide) h

theorem length_body (q : SignedRequest) : 66 ≤ q.body.length := by
  have hread : q.readAs q.route = some q := by cases q <;> rfl
  have hdecode := q.decode_body q.route
  rw [hread] at hdecode
  exact length_of_decode hdecode

theorem length_message (timestamp : Millis) (q : SignedRequest) :
    74 ≤ (requestMessage timestamp q.body).length := by
  have hbody := q.length_body
  rw [length_requestMessage]
  omega

end SignedRequest

/-- every string of at least 8 bytes is the message of a request -/
theorem exists_requestMessage {message : Bytes} (h : 8 ≤ message.length) :
    ∃ timestamp body, requestMessage timestamp body = message := by
  have hlen : (message.take 8).length = 8 := List.length_take_of_le h
  have hlt := Bytes.ofBigEndian_lt (message.take 8)
  have hback := Bytes.bigEndian_ofBigEndian (message.take 8)
  rw [hlen] at hlt hback
  refine ⟨⟨Bytes.ofBigEndian (message.take 8), hlt⟩, message.drop 8, ?_⟩
  rw [requestMessage, hback, List.take_append_drop]

/-- what has the digest of a voucher as its message has a body of 24 bytes -/
theorem length_of_requestMessage {timestamp : Millis} {body : Bytes} {receiver : Account}
    {nonce : Nonce} {sessionId : SessionId} {amount : Amount}
    (h : requestMessage timestamp body = voucherDigest receiver nonce sessionId amount) :
    body.length = 24 := by
  have hlen := congrArg List.length h
  rw [length_requestMessage, length_voucherDigest] at hlen
  omega

/-- a request with a body that is too short changes nothing, whoever signed it and whatever route it
goes to -/
theorem Service.registry_handle_of_short (S : SignatureScheme) (s : Service) (now : Millis)
    {request : Http.Request} (h : request.body.length < 66) :
    (s.handle S now request).2.registry = s.registry := by
  rcases s.handle_cases S now request with hsame | ⟨route, credentials, q, -, hperformed⟩
  · exact hsame
  · exact absurd (SignedRequest.length_of_decode hperformed.decoded) (Nat.not_le_of_lt h)

/-! ## What a client signs -/

/-- two schemes have the same accounts, and make the same signatures of all messages that are longer
than a bound -/
structure SignatureScheme.AgreeAbove (bound : Nat) (S S' : SignatureScheme) : Prop where
  account : ∀ secret, S.account secret = S'.account secret
  sign : ∀ secret message, bound < message.length → S.sign secret message = S'.sign secret message

section
variable {S S' : SignatureScheme} {σ α : Type}

theorem signedHeaders_of_agree (h : S.AgreeAbove 32 S') (c : Client) (timestamp : Millis)
    (q : SignedRequest) :
    c.signedHeaders S timestamp q.body = c.signedHeaders S' timestamp q.body := by
  have hlong : 32 < (requestMessage timestamp q.body).length :=
    Nat.lt_of_lt_of_le (by decide) (q.length_message timestamp)
  have hsign : S.signRequest c.secret timestamp q.body = S'.signRequest c.secret timestamp q.body :=
    h.sign c.secret _ hlong
  unfold Client.signedHeaders Client.account
  rw [h.account, hsign]

/-- at no attempt does a client sign a message that the digest of a voucher could be -/
theorem submit_of_agree (h : S.AgreeAbove 32 S') (T : Transport σ)
    (decode : Bytes → Except Json.Flaw α) (q : SignedRequest) (c : Client) (s : σ) :
    Client.submit S T decode q.route q.body c s = Client.submit S' T decode q.route q.body c s := by
  have hpost : Client.post S T q.route.path q.body = Client.post S' T q.route.path q.body := by
    funext s
    unfold Client.post
    simp only [signedHeaders_of_agree h]
  unfold Client.submit
  rw [hpost]

end

/-! ## Apart -/

/-- signatures of vouchers and of requests have nothing to do with each other.  A request whose
message is the digest of a voucher has a body that no route can read, and changes nothing, whatever
else it says; for what a route can read has at least 66 bytes.  And what a client signs is longer
than a digest, whichever request it makes: its calls would be the same under a scheme that makes
other signatures of 32 bytes or less. -/
theorem domains_apart (S : SignatureScheme) :
    (∀ receiver nonce sessionId amount timestamp body,
      requestMessage timestamp body = voucherDigest receiver nonce sessionId amount →
      (∀ route q, SignedRequest.decode body route ≠ .ok q) ∧
      ∀ (s : Service) (now : Millis) (request : Http.Request), request.body = body →
        (s.handle S now request).2.registry = s.registry) ∧
    (∀ body route q, SignedRequest.decode body route = .ok q → 66 ≤ body.length) ∧
    (∀ timestamp (q : SignedRequest), 32 < (requestMessage timestamp q.body).length ∧
      ∀ receiver nonce sessionId amount,
        requestMessage timestamp q.body ≠ voucherDigest receiver nonce sessionId amount) ∧
    ∀ S' : SignatureScheme, S.AgreeAbove 32 S' →
      ∀ (σ : Type) (T : Transport σ) (c : Client) (s : σ),
        (∀ receiver amount duration, Client.openChannel S T receiver amount duration c s
          = Client.openChannel S' T receiver amount duration c s) ∧
        (∀ receiver amount,
          Client.addBalance S T receiver amount c s = Client.addBalance S' T receiver amount c s) ∧
        (∀ sender voucher,
          Client.claim S T sender voucher c s = Client.claim S' T sender voucher c s) ∧
        (∀ ends, Client.closeChannel S T ends c s = Client.closeChannel S' T ends c s) ∧
        Client.closeExpired S T c s = Client.closeExpired S' T c s := by
  refine ⟨?_, fun _ _ _ h => SignedRequest.length_of_decode h, ?_, ?_⟩
  · intro receiver nonce sessionId amount timestamp body hmessage
    have hlen := length_of_requestMessage hmessage
    refine ⟨fun route q hdecode => ?_, fun s now request hbody => ?_⟩
    · have hread := SignedRequest.length_of_decode hdecode
      omega
    · apply s.registry_handle_of_short S now
      rw [hbody, hlen]
      decide
  · intro timestamp q
    have hlen := q.length_message timestamp
    refine ⟨Nat.lt_of_lt_of_le (by decide) hlen, fun receiver nonce sessionId amount hsame => ?_⟩
    rw [hsame, length_voucherDigest] at hlen
    exact absurd hlen (by decide)
  · intro S' h σ T c s
    have haccount : c.account S = c.account S' := h.account c.secret
    refine ⟨?_, ?_, ?_, ?_, ?_⟩
    · intro receiver amount duration
      unfold Client.openChannel
      rw [haccount]
      exact submit_of_agree h T _ (.openChannel ⟨c.account S', receiver, amount, duration⟩) c s
    · intro receiver amount
      unfold Client.addBalance
      rw [haccount]
      exact submit_of_agree h T _ (.addBalance ⟨c.account S', receiver, amount⟩) c s
    · intro sender voucher
      unfold Client.claim
      rw [haccount]
      exact submit_of_agree h T _ (.claim ⟨sender, c.account S', voucher.sessionId, voucher.amount,
        voucher.signature⟩) c s
    · intro ends
      exact submit_of_agree h T _ (.closeChannel ⟨ends.sender, ends.receiver⟩) c s
    · unfold Client.closeExpired
      rw [haccount]
      exact submit_of_agree h T _ (.closeExpired ⟨c.account S'⟩) c s

/-- the digest of a voucher over 7 is the message of a request: wherever it is posted with whatever
headers, the channel that the voucher could be claimed from stays as it is.  And a client whose
scheme signs no digest opens a channel all the same. -/
theorem domains_apart_posted :
    let ends : Ends := ⟨.repeated 1, .repeated 2⟩
    let s := Service.withChannel ed25519 ends
    let mute : SignatureScheme := { ed25519 with
      sign := fun secret message =>
        if 32 < message.length then ed25519.sign secret message else List.replicate 64 0
      length_sign := fun secret message => by
        split
        · exact ed25519.length_sign secret message
        · exact List.length_replicate }
    let c := Client.start ⟨List.replicate 32 1, by decide⟩ .none
    (∃ timestamp body,
      requestMessage timestamp body
        = voucherDigest ends.receiver Word.zero Word.one ⟨7, by decide⟩ ∧
      ∀ route : SignedRoute, ∀ headers,
        (s.handle ed25519 timestamp (Transport.postRequest route.path headers body)).2.registry
          = s.registry) ∧
    Client.openChannel ed25519 (Embedded.transport ed25519) ends.receiver ⟨7, by decide⟩ Word.one c
        ⟨s, Word.one⟩
      = Client.openChannel mute (Embedded.transport ed25519) ends.receiver ⟨7, by decide⟩ Word.one c
        ⟨s, Word.one⟩ := by
  intro ends s mute c
  obtain ⟨hvoucher, -, -, hclient⟩ := domains_apart ed25519
  have hlen : 8 ≤ (voucherDigest ends.receiver Word.zero Word.one ⟨7, by decide⟩).length := by
    rw [length_voucherDigest]
    decide
  obtain ⟨timestamp, body, hmessage⟩ := exists_requestMessage hlen
  have hagree : ed25519.AgreeAbove 32 mute := ⟨fun _ => rfl, fun _ _ h => (if_pos h).symm⟩
  refine ⟨⟨timestamp, body, hmessage, fun route headers => ?_⟩, ?_⟩
  · exact (hvoucher _ _ _ _ timestamp body hmessage).2 s timestamp _ rfl
  · exact (hclient mute hagree _ (Embedded.transport ed25519) c ⟨s, Word.one⟩).1 _ _ _

end PayChannel
