import Mathlib
import PayChannel.Proofs.Registry.Acceptance

/-!
# Runs of a registry

A registry is asked one operation after the other, and between them the ledger may change on its
own, for instance because blocks pass.  The journal of a run holds, for every operation, what was
asked, what was answered, and the registry before and after.

* `Registry.perform`    the answer to an operation, and the registry after it;
* `Outcome`, `outcome_perform`, `exists_outcome`    all that an operation can do, case by case;
* `perform_refused`    a refusal leaves everything as it was;
* `Registry.journal`, `Registry.after`    what was told during a run, and the registry after it;
* `run_induction`    what the start has and every step keeps, the run has;
* `Account.repeated`, `SignatureScheme.tagging`    who and what stands in for others in examples.
-/

set_option linter.unusedSectionVars false

namespace PayChannel

/-- the account whose bytes are all the same; it stands for somebody in examples -/
def Account.repeated (b : UInt8) : Account :=
  ⟨List.replicate 32 b, List.length_replicate⟩

/-- the scheme whose signatures are the key and the message, cut or filled up to length; it stands in
examples for one that accepts what was signed -/
def SignatureScheme.tagging : SignatureScheme where
  account secret := ⟨secret.bytes, secret.length_eq⟩
  sign secret message := (secret.bytes ++ message).takeD 64 0
  verify account message signature := signature == (account.bytes ++ message).takeD 64 0
  length_sign _ _ := List.takeD_length _ _ _

theorem SignatureScheme.sound_tagging : tagging.Sound :=
  fun _ _ => beq_self_eq_true _

/-- what may be asked of a registry -/
inductive Operation where
  | openChannel (sender receiver : Account) (amount : Amount) (duration : Height)
  | addBalance (sender receiver : Account) (amount : Amount)
  | claim (sender receiver : Account) (sessionId : SessionId) (amount : Amount) (signature : Bytes)
  | closeChannel (caller sender receiver : Account)
  | closeExpired (caller : Account)
  | sweep
  | takeEvents
  | drainStatistics

inductive Answer where
  | refused (refusal : Refusal)
  | opened (channel : Channel)
  | funded (channel : Channel)
  | redeemed (receipt : Receipt)
  | closed (closings : List Closing)
  | events (events : List Event)
  | statistics (statistics : List ReceiverStats)

def Answer.ofResult {α : Type} (accepted : α → Answer) : Except Refusal α → Answer
  | .ok a => accepted a
  | .error refusal => refused refusal

theorem Answer.eq_ok_of_accepted {α L : Type} {accepted : α → Answer}
    (hinj : Function.Injective accepted) (hne : ∀ a refusal, accepted a ≠ refused refusal)
    {result : Except Refusal α × Registry L} {a : α} {r' : Registry L}
    (h : result.map (ofResult accepted) id = (accepted a, r')) : result = (.ok a, r') := by
  obtain ⟨refusal | a', q⟩ := result
  · exact absurd (congrArg Prod.fst h).symm (hne a refusal)
  · obtain ⟨haccepted, rfl⟩ := Prod.ext_iff.mp h
    rw [hinj haccepted]
    rfl

/-- a step of a run: an operation, or a change that the ledger undergoes on its own -/
inductive Move (β : Type) where
  | ask (operation : Operation)
  | elapse (change : β)

namespace Registry

variable {L β : Type} [Ledger L]

def perform (S : SignatureScheme) (r : Registry L) : Operation → Answer × Registry L
  | .openChannel sender receiver amount duration =>
    (r.openChannel sender receiver amount duration).map (Answer.ofResult .opened) id
  | .addBalance sender receiver amount =>
    (r.addBalance sender receiver amount).map (Answer.ofResult .funded) id
  | .claim sender receiver sessionId amount signature =>
    (r.claim S sender receiver sessionId amount signature).map (Answer.ofResult .redeemed) id
  | .closeChannel caller sender receiver =>
    (r.closeChannel caller sender receiver).map (Answer.ofResult fun closing => .closed [closing]) id
  | .closeExpired caller => (r.closeExpired caller).map .closed id
  | .sweep => r.sweep.map .closed id
  | .takeEvents => r.takeEvents.map .events id
  | .drainStatistics => r.drainStatistics.map .statistics id

/-! ## What an operation can do -/

/-- everything that asking an operation can lead to -/
inductive Outcome (S : SignatureScheme) (r : Registry L) : Operation → Answer → Registry L → Prop
  | refused (operation : Operation) (refusal : Refusal) :
    Outcome S r operation (.refused refusal) r
  | refusedDebit (operation : Operation) (refusal : Refusal) (account : Account) (x : Amount)
      (ledger : L) (h : Ledger.debit r.ledger account x = (false, ledger)) :
    Outcome S r operation (.refused refusal) { r with ledger }
  | opened (sender receiver : Account) (amount : Amount) (duration : Height) (channel : Channel)
      (r' : Registry L) (h : Opened r sender receiver amount duration channel r') :
    Outcome S r (.openChannel sender receiver amount duration) (.opened channel) r'
  | funded (sender receiver : Account) (amount : Amount) (c channel : Channel)
      (r' : Registry L) (h : Funded r sender receiver amount c channel r') :
    Outcome S r (.addBalance sender receiver amount) (.funded channel) r'
  | redeemed (sender receiver : Account) (sessionId : SessionId) (amount : Amount)
      (signature : Bytes) (c : Channel) (receipt : Receipt) (r' : Registry L)
      (h : Redeemed S r sender receiver sessionId amount signature c receipt r') :
    Outcome S r (.claim sender receiver sessionId amount signature) (.redeemed receipt) r'
  | closed (caller sender receiver : Account) (party : caller = sender ∨ caller = receiver) :
    Outcome S r (.closeChannel caller sender receiver)
      (.closed (r.closeAll r.height [⟨sender, receiver⟩]).1)
      (r.closeAll r.height [⟨sender, receiver⟩]).2
  | closedExpired (caller : Account) :
    Outcome S r (.closeExpired caller) (.closed (r.closeExpired caller).1) (r.closeExpired caller).2
  | swept : Outcome S r .sweep (.closed r.sweep.1) r.sweep.2
  | tookEvents : Outcome S r .takeEvents (.events r.events) { r with events := [] }
  | drained : Outcome S r .drainStatistics (.statistics r.statistics)
      { r with paid := Table.empty, clients := Table.empty }

theorem closeAll_of_closeChannel {r r' : Registry L} {caller sender receiver : Account}
    {closing : Closing} (hparty : caller = sender ∨ caller = receiver)
    (h : r.closeChannel caller sender receiver = (.ok closing, r')) :
    r.closeAll r.height [⟨sender, receiver⟩] = ([closing], r') := by
  unfold closeChannel at h
  rw [if_neg (by rcases hparty with rfl | rfl <;> simp)] at h
  rw [closeAll_cons]
  cases hclose : r.close ⟨sender, receiver⟩ r.height with
  | mk found r1 =>
    rw [hclose] at h
    cases found with
    | none => cases h
    | some _ =>
      cases h
      rfl

theorem outcome_perform (S : SignatureScheme) (r : Registry L) (operation : Operation) :
    Outcome S r operation (r.perform S operation).1 (r.perform S operation).2 := by
  cases operation with
  | openChannel sender receiver amount duration =>
    rw [perform]
    rcases r.openChannel_cases sender receiver amount duration with
      ⟨refusal, h⟩ | ⟨refusal, x, ledger, hd, h⟩ | ⟨channel, r', h, hopened⟩
    · rw [h]
      exact .refused _ refusal
    · rw [h]
      exact .refusedDebit _ refusal sender x ledger hd
    · rw [h]
      exact .opened _ _ _ _ channel r' hopened
  | addBalance sender receiver amount =>
    rw [perform]
    rcases r.addBalance_cases sender receiver amount with
      ⟨refusal, h⟩ | ⟨refusal, x, ledger, hd, h⟩ | ⟨c, channel, r', h, hfunded⟩
    · rw [h]
      exact .refused _ refusal
    · rw [h]
      exact .refusedDebit _ refusal sender x ledger hd
    · rw [h]
      exact .funded _ _ _ c channel r' hfunded
  | claim sender receiver sessionId amount signature =>
    rw [perform]
    rcases r.claim_cases S sender receiver sessionId amount signature with
      ⟨refusal, h⟩ | ⟨c, receipt, r', h, hredeemed⟩
    · rw [h]
      exact .refused _ refusal
    · rw [h]
      exact .redeemed _ _ _ _ _ c receipt r' hredeemed
  | closeChannel caller sender receiver =>
    rw [perform]
    rcases r.closeChannel_cases caller sender receiver with
      ⟨refusal, h⟩ | ⟨c, closing, r', h, hparty, hclosed⟩
    · rw [h]
      exact .refused _ refusal
    · have hall := closeAll_of_closeChannel hparty h
      have hout := Outcome.closed (S := S) (r := r) caller sender receiver hparty
      rw [hall] at hout
      rw [h]
      exact hout
  | closeExpired caller => exact .closedExpired caller
  | sweep => exact .swept
  | takeEvents => exact .tookEvents
  | drainStatistics => exact .drained

/-- what is asked has an answer and a registry after it, and they are one of the cases of `Outcome` -/
theorem exists_outcome (S : SignatureScheme) (r : Registry L) (operation : Operation) :
    ∃ answer r', r.perform S operation = (answer, r') ∧ Outcome S r operation answer r' :=
  ⟨_, _, rfl, outcome_perform S r operation⟩

theorem eq_of_refusedDebit [LawfulLedger L] {r : Registry L} {account : Account} {x : Amount}
    {ledger : L} (h : Ledger.debit r.ledger account x = (false, ledger)) :
    ({ r with ledger } : Registry L) = r := by
  have hledger := LawfulLedger.debit_refused r.ledger account x (congrArg Prod.fst h)
  rw [h] at hledger
  subst hledger
  rfl

theorem perform_refused [LawfulLedger L] {S : SignatureScheme} {r : Registry L}
    {operation : Operation} {refusal : Refusal}
    (h : (r.perform S operation).1 = .refused refusal) : (r.perform S operation).2 = r := by
  obtain ⟨answer, r', hp, hout⟩ := exists_outcome S r operation
  rw [hp] at h ⊢
  cases hout with
  | refused operation refusal => rfl
  | refusedDebit operation refusal account x ledger hd => exact eq_of_refusedDebit hd
  | opened | funded | redeemed | closed | closedExpired | swept | tookEvents | drained => cases h

/-! ## Runs -/

/-- what was told at one operation of a run -/
structure Entry (L : Type) where
  before : Registry L
  operation : Operation
  answer : Answer
  after : Registry L

variable (S : SignatureScheme) (change : β → L → L)

def entry (r : Registry L) (operation : Operation) : Entry L :=
  ⟨r, operation, (r.perform S operation).1, (r.perform S operation).2⟩

def step (r : Registry L) : Move β → Registry L
  | .ask operation => (r.perform S operation).2
  | .elapse b => { r with ledger := change b r.ledger }

def after (r : Registry L) (moves : List (Move β)) : Registry L :=
  moves.foldl (step S change) r

def journal : Registry L → List (Move β) → List (Entry L)
  | _, [] => []
  | r, .ask operation :: rest => r.entry S operation :: journal (r.perform S operation).2 rest
  | r, .elapse b :: rest => journal { r with ledger := change b r.ledger } rest

theorem after_append (r : Registry L) (moves more : List (Move β)) :
    r.after S change (moves ++ more) = (r.after S change moves).after S change more :=
  List.foldl_append

theorem journal_append (r : Registry L) (moves more : List (Move β)) :
    r.journal S change (moves ++ more)
      = r.journal S change moves ++ (r.after S change moves).journal S change more := by
  induction moves generalizing r with
  | nil => rfl
  | cons move rest ih =>
    cases move with
    | ask operation =>
      rw [List.cons_append, journal, journal, ih, List.cons_append]
      rfl
    | elapse b =>
      rw [List.cons_append, journal, journal, ih]
      rfl

/-- what holds at the start and is kept by every operation and by every change of the ledger, holds
after a run; it may speak of the journal so far -/
theorem run_induction {P : List (Entry L) → Registry L → Prop} {r : Registry L}
    (start : P [] r)
    (ask : ∀ entries r operation, P entries r →
      P (entries ++ [r.entry S operation]) (r.perform S operation).2)
    (elapse : ∀ entries r b, P entries r → P entries { r with ledger := change b r.ledger })
    (moves : List (Move β)) : P (r.journal S change moves) (r.after S change moves) := by
  -- from the end, for the statement may speak of the journal up to the last move
  induction moves using List.reverseRecOn with
  | nil => exact start
  | append_singleton moves move ih =>
    rw [journal_append, after_append]
    cases move with
    | ask operation => exact ask _ _ operation ih
    | elapse b =>
      have h := elapse _ _ b ih
      rw [journal, journal, List.append_nil]
      exact h

end Registry
end PayChannel
