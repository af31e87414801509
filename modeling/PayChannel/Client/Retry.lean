import PayChannel.Api.Json
import PayChannel.Refusal
import PayChannel.Utf8

/-!
# Retries

A call is attempted until it has an outcome that a repetition would not change, or until the
attempts that a policy allows are used up.  Attempts that got no reply, or one of a few statuses,
are worth repeating; before each repetition there is a pause that doubles up to a limit.

* `RetryPolicy.backoff`    the pause after an attempt;
* `verdict`    what one attempt means;
* `attempts`    the attempts of a call.
-/

namespace PayChannel

structure Reply where
  status : Nat
  body : Bytes

/-- what came of an attempt: a reply, or why there was none -/
abbrev Delivery := Except String Reply

inductive Failure where
  /-- no reply came -/
  | transport (reason : String)
  /-- the channel operation was refused -/
  | rejected (refusal : Refusal)
  /-- the request was refused for another reason, which the service named -/
  | refused (status : Nat) (code : String)
  /-- the reply is none that a service of this kind gives -/
  | unexpected (status : Nat) (body : String)
  /-- the reply is a success, but not the record asked for -/
  | codec (flaw : Json.Flaw)

namespace Failure

def ofReply (reply : Reply) : Failure :=
  match Json.decode Complaint reply.body with
  | .error _ => unexpected reply.status (Utf8.decodeLossy reply.body)
  | .ok complaint =>
    match Refusal.ofCode? complaint.code with
    | some refusal => rejected refusal
    | none => refused reply.status complaint.code

def message : Failure → String
  | transport reason => "transport error: " ++ reason
  | rejected refusal => "rejected: " ++ refusal.message
  | refused status code => "request refused (" ++ toString status ++ "): " ++ code
  | unexpected status _ => "unexpected response (" ++ toString status ++ ")"
  | codec _ => "codec error"

end Failure

/-! ## Policies -/

/-- how often a call is attempted, and how long the pauses are in milliseconds -/
structure RetryPolicy where
  maxAttempts : Word 32
  initialBackoff : Nat
  maxBackoff : Nat

namespace RetryPolicy

def none : RetryPolicy :=
  ⟨Word.one, 0, 0⟩

def standard : RetryPolicy :=
  ⟨⟨4, by decide⟩, 250, 4000⟩

/-- the pause after an attempt, counted from one: it doubles with each attempt, up to the limit -/
def backoff (p : RetryPolicy) (attempt : Nat) : Nat :=
  let doublings := attempt - 1
  let factor := if doublings < 32 then Nat.pow 2 doublings else Nat.pow 2 32 - 1
  min (p.initialBackoff * factor) p.maxBackoff

def spare (p : RetryPolicy) : Nat :=
  p.maxAttempts.val - 1

theorem backoff_le (p : RetryPolicy) (attempt : Nat) : p.backoff attempt ≤ p.maxBackoff :=
  Nat.min_le_right _ _

end RetryPolicy

/-! ## Attempts -/

/-- what an attempt means: it settles the call, or it is worth repeating, and settles the call only
if it is the last one -/
inductive Verdict (α : Type) where
  | final (result : Except Failure α)
  | again (isLost : Bool) (failure : Failure)

def isSuccess (status : Nat) : Bool :=
  200 ≤ status && status < 300

/-- whether the same request may fare better later -/
def isRetryable (status : Nat) : Bool :=
  status = 429 || status = 500 || status = 502 || status = 503 || status = 504

def verdict {α : Type} (decode : Bytes → Except Json.Flaw α) : Delivery → Verdict α
  | .error reason => .again true (.transport reason)
  | .ok reply =>
    if isSuccess reply.status then .final ((decode reply.body).mapError Failure.codec)
    else if isRetryable reply.status then .again false (Failure.ofReply reply)
    else .final (.error (Failure.ofReply reply))

/-- attempts a call, at most `spare` times more after this attempt; `pause` is what happens before
an attempt is repeated, given whether it got no reply, and how long to wait -/
def attempts {α τ : Type} (policy : RetryPolicy) (decode : Bytes → Except Json.Flaw α)
    (send : τ → Delivery × τ) (pause : Bool → Nat → τ → τ) :
    (spare attempt : Nat) → τ → Except Failure α × τ
  | 0, _, s =>
    let (delivery, s) := send s
    match verdict decode delivery with
    | .final result => (result, s)
    | .again _ failure => (.error failure, s)
  | spare + 1, attempt, s =>
    let (delivery, s) := send s
    match verdict decode delivery with
    | .final result => (result, s)
    | .again isLost _ =>
      attempts policy decode send pause spare (attempt + 1)
        (pause isLost (policy.backoff attempt) s)

end PayChannel
