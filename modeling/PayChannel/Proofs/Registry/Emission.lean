import Mathlib
import PayChannel.Proofs.Registry.Run

/-!
# The events of a run

What an operation does is told by events: accepted openings, fundings and claims by one each, every
closing by one, and an opening that takes the place of an expired channel by the closing before it.
The log keeps the newest of them until they are taken.

* `emittedBy`, `emitted`    the events of an operation and its answer, and of a run;
* `events_closeAll`, `events_perform`    an operation logs what it emits, one event after the other;
* `newest`, `foldl_logged`    what a log that loses its oldest events still holds;
* `events_run`    what the log holds after a run.
-/

set_option linter.unusedSectionVars false

namespace PayChannel

def Closing.event (x : Closing) : Event :=
  .closed x.sender x.receiver x.refunded x.closedAt

namespace Registry

variable {L β : Type} [Ledger L]

/-- the event that an opening emits first, if it takes the place of a channel -/
def displaced (r : Registry L) (ends : Ends) : List Event :=
  ((r.channels.get? ends).map fun c => (closingOf c r.height).event).toList

/-- the events that an operation with its answer emits, in order -/
def emittedBy (r : Registry L) : Operation → Answer → List Event
  | .openChannel sender receiver _ _, .opened channel =>
    r.displaced ⟨sender, receiver⟩ ++ [.opened channel]
  | .addBalance sender receiver amount, .funded _ => [.funded sender receiver amount r.height]
  | .claim sender receiver sessionId amount _, .redeemed _ =>
    [.claimed sender receiver sessionId amount]
  | _, .closed closings => closings.map Closing.event
  | _, _ => []

def Entry.emitted (e : Entry L) : List Event :=
  e.before.emittedBy e.operation e.answer

def emitted (entries : List (Entry L)) : List Event :=
  entries.flatMap Entry.emitted

/-- what is left to be taken after one more entry -/
def Entry.untaken (events : List Event) (e : Entry L) : List Event :=
  match e.operation with
  | .takeEvents => []
  | _ => events ++ e.emitted

/-- the events since events were last taken, in order -/
def untaken (entries : List (Entry L)) : List Event :=
  entries.foldl Entry.untaken []

theorem emitted_append (entries more : List (Entry L)) :
    emitted (entries ++ more) = emitted entries ++ emitted more :=
  List.flatMap_append

theorem emitted_singleton (e : Entry L) : emitted [e] = e.emitted :=
  List.append_nil _

theorem untaken_append (entries : List (Entry L)) (e : Entry L) :
    untaken (entries ++ [e]) = e.untaken (untaken entries) :=
  List.foldl_concat _ _ _ _

theorem Entry.untaken_of_ne {e : Entry L} (h : e.operation ≠ .takeEvents) (events : List Event) :
    e.untaken events = events ++ e.emitted := by
  unfold Entry.untaken
  split
  · rename_i htake
    exact absurd htake h
  · rfl

theorem emittedBy_refused (r : Registry L) (operation : Operation) (refusal : Refusal) :
    r.emittedBy operation (.refused refusal) = [] := by
  cases operation <;> rfl

theorem displaced_of_get? {r : Registry L} {ends : Ends} {c : Channel}
    (h : r.channels.get? ends = some c) :
    r.displaced ends = [(closingOf c r.height).event] := by
  rw [displaced, h]
  rfl

theorem displaced_of_none {r : Registry L} {ends : Ends} (h : r.channels.get? ends = none) :
    r.displaced ends = [] := by
  rw [displaced, h]
  rfl

/-! ## What an operation logs -/

theorem events_cleared (r : Registry L) (ends : Ends) :
    (r.cleared ends).events = (r.displaced ends).foldl logged r.events := by
  cases hc : r.channels.get? ends with
  | none =>
    rw [cleared_of_none hc, displaced_of_none hc]
    rfl
  | some c =>
    rw [(cleared_of_get? hc).events, displaced_of_get? hc]
    rfl

theorem events_closeAll (r : Registry L) (now : Height) (keys : List Ends) :
    (r.closeAll now keys).2.events
      = ((r.closeAll now keys).1.map Closing.event).foldl logged r.events := by
  induction keys generalizing r with
  | nil => rfl
  | cons ends rest ih =>
    rw [closeAll_cons]
    dsimp only
    rw [ih, List.map_append, List.foldl_append]
    cases hc : r.channels.get? ends with
    | none =>
      rw [close_of_none hc]
      rfl
    | some c =>
      obtain ⟨hclosing, -, hret⟩ := close_of_get? hc now
      rw [hclosing, hret.events]
      rfl

/-- an operation that does not take the events logs what it emits, one event after the other -/
theorem events_perform (S : SignatureScheme) (r : Registry L) {operation : Operation}
    (h : operation ≠ .takeEvents) :
    (r.perform S operation).2.events
      = (r.emittedBy operation (r.perform S operation).1).foldl logged r.events := by
  obtain ⟨answer, r', hp, hout⟩ := exists_outcome S r operation
  rw [hp]
  dsimp only
  cases hout with
  | refused operation refusal =>
    rw [emittedBy_refused]
    rfl
  | refusedDebit operation refusal account x ledger hd =>
    rw [emittedBy_refused]
    rfl
  | opened sender receiver amount duration channel r' ho =>
    rw [emittedBy, List.foldl_append, ← events_cleared]
    exact ho.events
  | funded sender receiver amount c channel r' hf => exact hf.events
  | redeemed sender receiver sessionId amount signature c receipt r' hr => exact hr.events
  | closed caller sender receiver party => exact events_closeAll r _ _
  | closedExpired caller => exact events_closeAll r _ _
  | swept => exact events_closeAll r _ _
  | tookEvents => exact absurd rfl h
  | drained => rfl

/-! ## What a log holds -/

def newest (events : List Event) : List Event :=
  events.drop (events.length - eventCapacity)

theorem newest_nil : newest [] = [] :=
  List.drop_nil

theorem newest_of_lt {events : List Event} (h : events.length < eventCapacity) :
    newest events = events := by
  rw [newest, Nat.sub_eq_zero_of_le (Nat.le_of_lt h), List.drop_zero]

theorem length_newest_of_le {events : List Event} (h : eventCapacity ≤ events.length) :
    (newest events).length = eventCapacity := by
  rw [newest, List.length_drop, Nat.sub_sub_self h]

theorem logged_newest (events : List Event) (x : Event) :
    logged (newest events) x = newest (events ++ [x]) := by
  have hlen : (events ++ [x]).length = events.length + 1 := List.length_append
  by_cases hfull : eventCapacity ≤ events.length
  · have hcap : 1 ≤ eventCapacity := by decide
    rw [logged, if_pos (length_newest_of_le hfull), newest, newest, List.drop_drop, hlen,
      Nat.sub_add_comm hfull, List.drop_append_of_le_length (by omega)]
  · have hlt : events.length < eventCapacity := Nat.lt_of_not_le hfull
    rw [newest_of_lt hlt, logged, if_neg (Nat.ne_of_lt hlt), newest, hlen,
      Nat.sub_eq_zero_of_le hlt, List.drop_zero]

/-- a log keeps the newest of all events that have come in -/
theorem foldl_logged (events more : List Event) :
    more.foldl logged (newest events) = newest (events ++ more) := by
  induction more generalizing events with
  | nil => rw [List.append_nil, List.foldl_nil]
  | cons x rest ih =>
    rw [List.foldl_cons, logged_newest, ih, List.append_assoc, List.singleton_append]

theorem events_entry (S : SignatureScheme) {r : Registry L} {events : List Event}
    (h : r.events = newest events) (operation : Operation) :
    (r.perform S operation).2.events = newest ((r.entry S operation).untaken events) := by
  by_cases htake : operation = .takeEvents
  · rw [htake]
    exact newest_nil.symm
  · rw [events_perform S r htake, Entry.untaken_of_ne htake, h, foldl_logged]
    rfl

/-- after a run, the log holds the newest of the events that have not been taken -/
theorem events_run (S : SignatureScheme) (change : β → L → L) (ledger : L)
    (moves : List (Move β)) :
    ((ofLedger ledger).after S change moves).events
      = newest (untaken ((ofLedger ledger).journal S change moves)) := by
  apply run_induction S change (P := fun entries r => r.events = newest (untaken entries))
  · exact newest_nil.symm
  · intro entries r operation h
    rw [untaken_append]
    exact events_entry S h operation
  · exact fun entries r b h => h

end Registry
end PayChannel
