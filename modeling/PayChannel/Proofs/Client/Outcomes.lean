import Mathlib
import PayChannel.Proofs.Client.Agreement

/-!
# What a call comes to

A call goes on as long as its attempts get no reply, or one of a few statuses, and the policy allows
one more.  Here all that the client meets is written down beforehand, as a script, and the transport
notes what the client does.  So it can be said which attempt is the last one, what has been done until
then, and that the call returns what this attempt says.

* `Script.transport`    the transport that plays a script;
* `Repeatable`, `Tells`    which outcomes are worth another attempt, and what an outcome says;
* `Script.journal`, `Script.upTo`    what a client does before an attempt, and up to it;
* `attempts_settled`    the attempts of a call, up to the one that settles it;
* `calls_settle`    reads and signed calls, by their scripts.
-/

set_option linter.unusedSectionVars false

namespace PayChannel

/-! ## Scripts -/

/-- what the attempts of a call come to, counted from one, what the clock shows at each of them, and
what becomes of the tries to set the connection up anew -/
structure Script where
  outcome : Nat → Delivery
  reading : Nat → Millis
  reconnection : Nat → Except String Unit

inductive Act where
  | got (path : String)
  | posted (path : String) (headers : List (String × String)) (body : Bytes)
  | waited (duration : Nat)
  | reconnected
deriving DecidableEq

def Act.isCall : Act → Bool
  | got _ | posted _ _ _ => true
  | waited _ | reconnected => false

def Script.transport (w : Script) : Transport (List Act) where
  get path acts := (w.outcome (acts.countP Act.isCall + 1), acts ++ [.got path])
  post path headers body acts :=
    (w.outcome (acts.countP Act.isCall + 1), acts ++ [.posted path headers body])
  reconnect acts := (w.reconnection (acts.count .reconnected + 1), acts ++ [.reconnected])
  wait duration acts := acts ++ [.waited duration]
  now acts := (w.reading (acts.countP Act.isCall + 1), acts)

/-! ## Outcomes -/

/-- no reply, or a status that says that the same request may fare better later -/
def Repeatable : Delivery → Prop
  | .error _ => True
  | .ok reply => reply.status ∈ [429, 500, 502, 503, 504]

def isTransportError : Delivery → Bool
  | .error _ => true
  | .ok _ => false

/-- the result that an outcome stands for -/
inductive Tells {α : Type} (decode : Bytes → Except Json.Flaw α) :
    Delivery → Except Failure α → Prop where
  | decoded {reply : Reply} {a : α} (success : 200 ≤ reply.status ∧ reply.status < 300)
      (read : decode reply.body = .ok a) : Tells decode (.ok reply) (.ok a)
  | garbled {reply : Reply} {flaw : Json.Flaw} (success : 200 ≤ reply.status ∧ reply.status < 300)
      (read : decode reply.body = .error flaw) : Tells decode (.ok reply) (.error (.codec flaw))
  | lost (reason : String) : Tells decode (.error reason) (.error (.transport reason))
  | rejected {reply : Reply} {complaint : Complaint} {refusal : Refusal}
      (failure : ¬ (200 ≤ reply.status ∧ reply.status < 300))
      (read : Json.decode Complaint reply.body = .ok complaint)
      (known : refusal.code = complaint.code) : Tells decode (.ok reply) (.error (.rejected refusal))
  | refused {reply : Reply} {complaint : Complaint}
      (failure : ¬ (200 ≤ reply.status ∧ reply.status < 300))
      (read : Json.decode Complaint reply.body = .ok complaint)
      (unknown : ∀ refusal : Refusal, refusal.code ≠ complaint.code) :
      Tells decode (.ok reply) (.error (.refused reply.status complaint.code))
  | unexpected {reply : Reply} {flaw : Json.Flaw}
      (failure : ¬ (200 ≤ reply.status ∧ reply.status < 300))
      (read : Json.decode Complaint reply.body = .error flaw) :
      Tells decode (.ok reply) (.error (.unexpected reply.status (Utf8.decodeLossy reply.body)))

theorem isSuccess_iff (status : Nat) : isSuccess status = true ↔ 200 ≤ status ∧ status < 300 := by
  rw [isSuccess, Bool.and_eq_true, decide_eq_true_iff, decide_eq_true_iff]

theorem isRetryable_iff (status : Nat) :
    isRetryable status = true ↔ status ∈ [429, 500, 502, 503, 504] := by
  simp only [isRetryable, Bool.or_eq_true, decide_eq_true_eq, List.mem_cons, List.not_mem_nil,
    or_false, or_assoc]

theorem attempts_last {α τ : Type} {policy : RetryPolicy} {decode : Bytes → Except Json.Flaw α}
    {send : τ → Delivery × τ} {s : τ} {isLost : Bool} {failure : Failure}
    (h : verdict decode (send s).1 = .again isLost failure) (pause : Bool → Nat → τ → τ)
    (attempt : Nat) : attempts policy decode send pause 0 attempt s = (.error failure, (send s).2) := by
  rw [attempts]
  dsimp only
  rw [h]

section
variable {α τ : Type} (decode : Bytes → Except Json.Flaw α)

theorem tells_ofReply {reply : Reply} (h : ¬ (200 ≤ reply.status ∧ reply.status < 300)) :
    Tells decode (.ok reply) (.error (Failure.ofReply reply)) := by
  unfold Failure.ofReply
  cases hread : Json.decode Complaint reply.body with
  | error flaw => exact .unexpected h hread
  | ok complaint =>
    dsimp only
    cases hcode : Refusal.ofCode? complaint.code with
    | some refusal =>
      have hfound := List.find?_some (p := fun r : Refusal => r.code = complaint.code) hcode
      exact .rejected h hread (of_decide_eq_true hfound)
    | none =>
      refine .refused h hread fun refusal hsame => ?_
      rw [← hsame, Refusal.ofCode?_code] at hcode
      cases hcode

theorem verdict_of_repeatable {delivery : Delivery} (h : Repeatable delivery) :
    ∃ failure, verdict decode delivery = .again (isTransportError delivery) failure ∧
      Tells decode delivery (.error failure) := by
  cases delivery with
  | error reason => exact ⟨_, rfl, .lost reason⟩
  | ok reply =>
    have hretry : isRetryable reply.status = true := (isRetryable_iff _).mpr h
    have hfailure : ¬ (200 ≤ reply.status ∧ reply.status < 300) := by
      simp only [Repeatable, List.mem_cons, List.not_mem_nil, or_false] at h
      omega
    refine ⟨_, ?_, tells_ofReply decode hfailure⟩
    unfold verdict
    dsimp only
    rw [if_neg (mt (isSuccess_iff _).mp hfailure), if_pos hretry]
    rfl

theorem verdict_of_not_repeatable {delivery : Delivery} (h : ¬ Repeatable delivery) :
    ∃ result, verdict decode delivery = .final result ∧ Tells decode delivery result := by
  cases delivery with
  | error reason => exact absurd trivial h
  | ok reply =>
    have hretry : ¬ isRetryable reply.status = true := mt (isRetryable_iff _).mp h
    unfold verdict
    dsimp only
    by_cases hsuccess : 200 ≤ reply.status ∧ reply.status < 300
    · rw [if_pos ((isSuccess_iff _).mpr hsuccess)]
      cases hread : decode reply.body with
      | error flaw => exact ⟨_, rfl, .garbled hsuccess hread⟩
      | ok a => exact ⟨_, rfl, .decoded hsuccess hread⟩
    · rw [if_neg (mt (isSuccess_iff _).mp hsuccess), if_neg hretry]
      exact ⟨_, rfl, tells_ofReply decode hsuccess⟩

/-! ## Attempts -/

/-- the states of a call that goes on and on: `stage n` after `n` attempts and the pauses after them,
`sent n` right after attempt `n` -/
structure Played (policy : RetryPolicy) (outcome : Nat → Delivery) (send : τ → Delivery × τ)
    (pause : Bool → Nat → τ → τ) (stage sent : Nat → τ) : Prop where
  attempt : ∀ n, send (stage n) = (outcome (n + 1), sent (n + 1))
  pause : ∀ n, pause (isTransportError (outcome (n + 1))) (policy.backoff (n + 1)) (sent (n + 1))
    = stage (n + 1)

/-- a call ends with the first outcome that is not worth another attempt, or when there is no attempt
to spare -/
theorem attempts_settled {policy : RetryPolicy} {outcome : Nat → Delivery}
    {send : τ → Delivery × τ} {pause : Bool → Nat → τ → τ} {stage sent : Nat → τ}
    (h : Played policy outcome send pause stage sent) {spare more : Nat} (n : Nat)
    (hmore : more ≤ spare) (hagain : ∀ k, n < k → k ≤ n + more → Repeatable (outcome k))
    (hlast : ¬ Repeatable (outcome (n + more + 1)) ∨ more = spare) :
    ∃ result, Tells decode (outcome (n + more + 1)) result ∧
      attempts policy decode send pause spare (n + 1) (stage n)
        = (result, sent (n + more + 1)) := by
  have hmet : ∀ {n v}, verdict decode (outcome (n + 1)) = v →
      verdict decode (send (stage n)).1 = v := by
    intro n v hv
    rw [h.attempt]
    exact hv
  -- by how many attempts follow the next one
  induction more generalizing spare n with
  | zero =>
    rw [Nat.add_zero] at hlast ⊢
    by_cases hrepeat : Repeatable (outcome (n + 1))
    · obtain rfl : 0 = spare := hlast.resolve_left (not_not_intro hrepeat)
      obtain ⟨failure, hverdict, htells⟩ := verdict_of_repeatable decode hrepeat
      refine ⟨_, htells, ?_⟩
      rw [attempts_last (hmet hverdict), h.attempt]
    · obtain ⟨result, hverdict, htells⟩ := verdict_of_not_repeatable decode hrepeat
      refine ⟨_, htells, ?_⟩
      rw [attempts_of_final (hmet hverdict), h.attempt]
  | succ more ih =>
    obtain ⟨spare, rfl⟩ : ∃ fewer, spare = fewer + 1 := ⟨spare - 1, by omega⟩
    have hrepeat : Repeatable (outcome (n + 1)) := hagain (n + 1) (by omega) (by omega)
    obtain ⟨failure, hverdict, -⟩ := verdict_of_repeatable decode hrepeat
    have hindex : n + (more + 1) = n + 1 + more := by omega
    rw [hindex] at hagain hlast ⊢
    obtain ⟨result, htells, hcall⟩ := ih (n + 1) (Nat.le_of_succ_le_succ hmore)
      (fun k hlt hle => hagain k (by omega) hle) (hlast.imp_right fun h => by omega)
    refine ⟨result, htells, ?_⟩
    rw [attempts_of_again (hmet hverdict), h.attempt, h.pause, hcall]

end

/-! ## Pauses -/

namespace RetryPolicy

/-- pauses double until the factor does not fit, and have a limit -/
theorem backoff_eq (p : RetryPolicy) (attempt : Nat) : p.backoff attempt
    = min (p.initialBackoff * min (2 ^ (attempt - 1)) (2 ^ 32 - 1)) p.maxBackoff := by
  have hfactor : (if attempt - 1 < 32 then 2 ^ (attempt - 1) else 2 ^ 32 - 1)
      = min (2 ^ (attempt - 1)) (2 ^ 32 - 1) := by
    split
    · rename_i hlt
      have hle : 2 ^ (attempt - 1) ≤ 2 ^ 31 := Nat.pow_le_pow_right (by omega) (by omega)
      exact (Nat.min_eq_left (by omega)).symm
    · rename_i hge
      have hle : 2 ^ 32 ≤ 2 ^ (attempt - 1) := Nat.pow_le_pow_right (by omega) (by omega)
      exact (Nat.min_eq_right (by omega)).symm
  rw [← hfactor]
  rfl

theorem backoff_mono (p : RetryPolicy) : Monotone p.backoff := by
  intro a b hab
  have hpow : 2 ^ (a - 1) ≤ 2 ^ (b - 1) :=
    Nat.pow_le_pow_right (by omega) (Nat.sub_le_sub_right hab 1)
  rw [backoff_eq, backoff_eq]
  exact min_le_min_right _ (Nat.mul_le_mul_left _ (min_le_min_right _ hpow))

end RetryPolicy

/-! ## Calls -/

namespace Script

/-- what a client does before the attempt after the first `n`: the attempts, each with the pause after
it and, if there was no reply, a try to set the connection up anew -/
def journal (w : Script) (policy : RetryPolicy) (call : Nat → Act) : Nat → List Act
  | 0 => []
  | n + 1 => w.journal policy call n ++ [call (n + 1), .waited (policy.backoff (n + 1))] ++
    if isTransportError (w.outcome (n + 1)) then [.reconnected] else []

def upTo (w : Script) (policy : RetryPolicy) (call : Nat → Act) (i : Nat) : List Act :=
  w.journal policy call (i - 1) ++ [call i]

/-- the client after it has signed `n` attempts -/
def stamped (w : Script) (c : Client) : Nat → Client
  | 0 => c
  | n + 1 => ((w.stamped c n).nextTimestamp (w.reading (n + 1))).2

def stamp (w : Script) (c : Client) (n : Nat) : Millis :=
  (w.stamped c n).lastTimestamp

/-- the attempt that settles a call -/
def Settles (w : Script) (policy : RetryPolicy) (i : Nat) : Prop :=
  IsLeast {i | 1 ≤ i ∧ (¬ Repeatable (w.outcome i) ∨ policy.maxAttempts.val ≤ i)} i

/-- a call has ended with an attempt: its result is what the outcome of this attempt says, and the
attempts until then have been made, with the pauses between them and nothing else -/
structure Settled {α : Type} (w : Script) (policy : RetryPolicy)
    (decode : Bytes → Except Json.Flaw α) (call : Nat → Act) (i : Nat) (result : Except Failure α)
    (acts : List Act) : Prop where
  told : Tells decode (w.outcome i) result
  done : acts = w.upTo policy call i
  calls : acts.countP Act.isCall = i

section
variable {α : Type} {w : Script} {policy : RetryPolicy} {call : Nat → Act}

theorem filter_journal (hcall : ∀ n, (call n).isCall = true) (n : Nat) :
    (w.journal policy call n).filter Act.isCall = (List.range n).map fun k => call (k + 1) := by
  induction n with
  | zero => rfl
  | succ n ih =>
    have hrest : (if isTransportError (w.outcome (n + 1)) then [Act.reconnected] else []).filter
        Act.isCall = [] := by
      split <;> rfl
    rw [journal, List.filter_append, List.filter_append, ih, hrest, List.append_nil,
      List.filter_cons_of_pos (hcall (n + 1)), List.range_succ, List.map_append]
    rfl

theorem countP_journal (hcall : ∀ n, (call n).isCall = true) (n : Nat) :
    (w.journal policy call n).countP Act.isCall = n := by
  rw [List.countP_eq_length_filter, filter_journal hcall, List.length_map, List.length_range]

theorem filter_upTo (hcall : ∀ n, (call n).isCall = true) (n : Nat) :
    (w.upTo policy call (n + 1)).filter Act.isCall
      = (List.range (n + 1)).map fun k => call (k + 1) := by
  rw [upTo, Nat.add_sub_cancel, List.filter_append, filter_journal hcall,
    List.filter_cons_of_pos (hcall (n + 1)), List.range_succ, List.map_append]
  rfl

theorem journal_pause (w : Script) (policy : RetryPolicy) (call : Nat → Act) (n : Nat) :
    w.transport.pause (isTransportError (w.outcome (n + 1))) (policy.backoff (n + 1))
      (w.upTo policy call (n + 1)) = w.journal policy call (n + 1) := by
  rw [journal, Transport.pause, upTo, Nat.add_sub_cancel]
  dsimp only [transport]
  split
  · rw [List.append_assoc _ [call (n + 1)]]
    rfl
  · rw [List.append_assoc _ [call (n + 1)], List.append_nil]
    rfl

theorem exists_settles (w : Script) (policy : RetryPolicy) : ∃ i, w.Settles policy i := by
  classical
  have hsome : ∃ i, 1 ≤ i ∧ (¬ Repeatable (w.outcome i) ∨ policy.maxAttempts.val ≤ i) :=
    ⟨policy.maxAttempts.val + 1, by omega, .inr (by omega)⟩
  exact ⟨_, Nat.isLeast_find hsome⟩

theorem Settles.again {i : Nat} (h : w.Settles policy i) {k : Nat} (hk : 1 ≤ k) (hlt : k < i) :
    Repeatable (w.outcome k) ∧ k < policy.maxAttempts.val := by
  have hnot : ¬ (1 ≤ k ∧ (¬ Repeatable (w.outcome k) ∨ policy.maxAttempts.val ≤ k)) :=
    fun hmem => Nat.not_le_of_lt hlt (h.2 hmem)
  constructor
  · by_contra hfinal
    exact hnot ⟨hk, .inl hfinal⟩
  · by_contra hlast
    exact hnot ⟨hk, .inr (Nat.le_of_not_lt hlast)⟩

theorem Settles.attempts {τ : Type} {i : Nat} (h : w.Settles policy i)
    (decode : Bytes → Except Json.Flaw α) {send : τ → Delivery × τ} {pause : Bool → Nat → τ → τ}
    {stage sent : Nat → τ} (hplayed : Played policy w.outcome send pause stage sent) :
    ∃ result, Tells decode (w.outcome i) result ∧
      PayChannel.attempts policy decode send pause policy.spare 1 (stage 0) = (result, sent i) := by
  obtain ⟨n, rfl⟩ : ∃ n, i = 0 + n + 1 := ⟨i - 1, by have := h.1.1; omega⟩
  have hspare : n ≤ policy.spare := by
    rcases Nat.eq_zero_or_pos n with rfl | hpos
    · exact Nat.zero_le _
    · exact Nat.le_sub_one_of_lt (h.again hpos (by omega)).2
  have hlast : ¬ Repeatable (w.outcome (0 + n + 1)) ∨ n = policy.spare := by
    refine h.1.2.imp_right fun hmax => Nat.le_antisymm hspare (Nat.sub_le_of_le_add ?_)
    rwa [Nat.zero_add] at hmax
  exact attempts_settled decode hplayed 0 hspare
    (fun k hpos hle => (h.again hpos (by omega)).1) hlast

theorem Settles.settled {i : Nat} (h : w.Settles policy i) {decode : Bytes → Except Json.Flaw α}
    {result : Except Failure α} (hcall : ∀ n, (call n).isCall = true)
    (htells : Tells decode (w.outcome i) result) :
    Settled w policy decode call i result (w.upTo policy call i) := by
  refine ⟨htells, rfl, ?_⟩
  rw [upTo, List.countP_append, countP_journal hcall, List.countP_cons, if_pos (hcall i)]
  exact Nat.sub_add_cancel h.1.1

theorem query_settled (c : Client) (decode : Bytes → Except Json.Flaw α) (path : String) {i : Nat}
    (h : w.Settles c.policy i) :
    let read := c.query w.transport decode path []
    Settled w c.policy decode (fun _ => .got path) i read.1 read.2 := by
  let call : Nat → Act := fun _ => .got path
  have hcall : ∀ n, (call n).isCall = true := fun _ => rfl
  have hplayed : Played c.policy w.outcome (w.transport.get path) w.transport.pause
      (w.journal c.policy call) (w.upTo c.policy call) := by
    refine ⟨fun n => ?_, journal_pause w c.policy call⟩
    show (w.outcome (List.countP _ (w.journal c.policy call n) + 1), _) = _
    rw [countP_journal hcall]
    rfl
  obtain ⟨result, htells, hattempts⟩ := h.attempts decode hplayed
  intro read
  have hread : read = (result, w.upTo c.policy call i) := hattempts
  rw [hread]
  exact h.settled hcall htells

theorem secret_stamped (w : Script) (c : Client) (n : Nat) : (w.stamped c n).secret = c.secret := by
  induction n with
  | zero => rfl
  | succ n ih => exact ih

theorem signedHeaders_stamped (w : Script) (S : SignatureScheme) (c : Client) (n : Nat)
    (timestamp : Millis) (body : Bytes) :
    (w.stamped c n).signedHeaders S timestamp body = c.signedHeaders S timestamp body := by
  rw [Client.signedHeaders, Client.account, secret_stamped]
  rfl

theorem submit_settled (S : SignatureScheme) (c : Client) (decode : Bytes → Except Json.Flaw α)
    (route : SignedRoute) (body : Bytes) {i : Nat} (h : w.Settles c.policy i) :
    let sent := Client.submit S w.transport decode route body c []
    Settled w c.policy decode
      (fun k => .posted route.path (c.signedHeaders S (w.stamp c k) body) body) i sent.1
        sent.2.2 ∧ sent.2.1 = w.stamped c i := by
  let call : Nat → Act := fun k => .posted route.path (c.signedHeaders S (w.stamp c k) body) body
  have hcall : ∀ n, (call n).isCall = true := fun _ => rfl
  have hplayed : Played c.policy w.outcome (Client.post S w.transport route.path body)
      (fun isLost duration s => (s.1, w.transport.pause isLost duration s.2))
      (fun n => (w.stamped c n, w.journal c.policy call n))
      (fun n => (w.stamped c n, w.upTo c.policy call n)) := by
    refine ⟨fun n => ?_, fun n => congrArg (Prod.mk _) (journal_pause w c.policy call n)⟩
    unfold Client.post
    dsimp only [transport]
    rw [countP_journal hcall]
    show (_, w.stamped c (n + 1), _ ++ [Act.posted _
      ((w.stamped c (n + 1)).signedHeaders S (w.stamp c (n + 1)) body) body]) = _
    rw [signedHeaders_stamped]
    rfl
  obtain ⟨result, htells, hattempts⟩ := h.attempts decode hplayed
  intro sent
  have hsent : sent = (result, w.stamped c i, w.upTo c.policy call i) := hattempts
  rw [hsent]
  exact ⟨h.settled hcall htells, rfl⟩

end

theorem stamp_lt_or_eq (w : Script) (c : Client) (n : Nat) :
    w.stamp c n < w.stamp c (n + 1) ∨ (w.stamp c n).val = 2 ^ 64 - 1 := by
  rcases Nat.lt_or_ge (w.stamp c n).val (2 ^ 64 - 1) with hlt | hge
  · exact .inl (Client.lt_timestampAfter hlt (w.reading (n + 1)))
  · exact .inr (Nat.le_antisymm (w.stamp c n).val_le_max hge)

end Script

/-- whatever a policy allows and whatever becomes of the attempts, the clock and the connection: a call
ends with the first attempt that is not worth another one, or that is the last one allowed, and returns
what its outcome says; before each attempt but the first there is the pause of the attempt before, and a
try to reconnect if that one got no reply; pauses double up to a limit; and a signed call sends the same
body each time, with a later timestamp, unless the one before is the largest number -/
theorem calls_settle {α : Type} (S : SignatureScheme) (w : Script) (c : Client)
    (decode : Bytes → Except Json.Flaw α) (path : String) (route : SignedRoute) (body : Bytes) :
    let read := c.query w.transport decode path []
    let sent := Client.submit S w.transport decode route body c []
    ∃ i, w.Settles c.policy i ∧
      w.Settled c.policy decode (fun _ => .got path) i read.1 read.2 ∧
      w.Settled c.policy decode
        (fun k => .posted route.path (c.signedHeaders S (w.stamp c k) body) body) i sent.1 sent.2.2 ∧
      sent.2.1 = w.stamped c i ∧
      (∀ k, w.stamp c k < w.stamp c (k + 1) ∨ (w.stamp c k).val = 2 ^ 64 - 1) ∧
      Monotone c.policy.backoff ∧ (∀ k, c.policy.backoff k ≤ c.policy.maxBackoff) ∧
      ∀ k, c.policy.backoff k
        = min (c.policy.initialBackoff * min (2 ^ (k - 1)) (2 ^ 32 - 1)) c.policy.maxBackoff := by
  intro read sent
  obtain ⟨i, hi⟩ := w.exists_settles c.policy
  obtain ⟨hsent, hclient⟩ := Script.submit_settled S c decode route body hi
  exact ⟨i, hi, Script.query_settled c decode path hi, hsent, hclient, w.stamp_lt_or_eq c,
    c.policy.backoff_mono, c.policy.backoff_le, c.policy.backoff_eq⟩

end PayChannel
