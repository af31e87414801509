import Mathlib
import PayChannel.Proofs.Registry.Conservation
import PayChannel.Proofs.Registry.Emission

/-!
# A replica that follows the events

Somebody who sees all the events of a registry, and nothing else, can keep up a copy of its
channels, of the last sessions and of the next nonces, and can account for the free balances of a
ledger that nobody else writes to.

* `Replica`, `Replica.apply`    the copy, and what an event does to it;
* `Replica.Tells`    events that lead from one replica to another, with refunds as it has them;
* `tells_perform`    the events of an operation lead from the registry before to the one after;
* `gain`, `booked_perform`    what an event does to a free balance, and all those of an operation;
* `events_tell_all`    the log, the tables and the balances after a run, out of its events.
-/

set_option linter.unusedSectionVars false

namespace PayChannel

/-- what can be known of a registry from its events -/
structure Replica where
  channels : Table Ends Channel
  lastSession : Ends → SessionId
  nextNonce : Ends → Nonce

namespace Replica

def empty : Replica :=
  ⟨Table.empty, fun _ => Word.zero, fun _ => Word.zero⟩

/-- gives the channel of a pair another balance; a pair without a channel is left alone -/
def revalue (p : Replica) (ends : Ends) (value : Amount → Amount) : Replica :=
  match p.channels.get? ends with
  | none => p
  | some c => { p with channels := p.channels.insert ends { c with balance := value c.balance } }

/-- takes the channel of a pair off and moves the pair on to its next nonce -/
def clear (p : Replica) (ends : Ends) : Replica :=
  match p.channels.get? ends with
  | none => p
  | some c =>
    { channels := p.channels.erase ends
      lastSession := Function.update p.lastSession ends Word.zero
      nextNonce := Function.update p.nextNonce ends (c.nonce.satAdd Word.one) }

def apply (p : Replica) : Event → Replica
  | .opened c => { p with channels := p.channels.insert c.ends c }
  | .funded sender receiver amount _ => p.revalue ⟨sender, receiver⟩ fun x => x.satAdd amount
  | .claimed sender receiver sessionId amount =>
    { p.revalue ⟨sender, receiver⟩ fun x => x.satSub amount with
      lastSession := Function.update p.lastSession ⟨sender, receiver⟩ sessionId }
  | .closed sender receiver _ _ => p.clear ⟨sender, receiver⟩

def replay (events : List Event) : Replica :=
  events.foldl apply empty

/-- an event refunds what the replica has in the channel; other events refund nothing -/
def Refunds (p : Replica) : Event → Prop
  | .closed sender receiver refunded _ =>
    ∃ c, p.channels.get? ⟨sender, receiver⟩ = some c ∧ c.balance = refunded
  | _ => True

/-- events lead from one replica to another, and refund what there is on the way -/
inductive Tells : Replica → List Event → Replica → Prop
  | nil (p : Replica) : Tells p [] p
  | cons {p q : Replica} {event : Event} {rest : List Event} (refunds : p.Refunds event)
      (tells : Tells (p.apply event) rest q) : Tells p (event :: rest) q

section
variable {p q s : Replica} {events more : List Event}

theorem Tells.single {event : Event} (h : p.Refunds event) : Tells p [event] (p.apply event) :=
  .cons h (.nil _)

theorem Tells.append (h : Tells p events q) (h' : Tells q more s) : Tells p (events ++ more) s := by
  induction h with
  | nil p => exact h'
  | cons refunds _ ih => exact .cons refunds (ih h')

theorem Tells.foldl_eq (h : Tells p events q) : events.foldl apply p = q := by
  induction h with
  | nil p => rfl
  | cons refunds _ ih => exact ih

/-- every event on the way refunds what the replica has by then -/
theorem Tells.refunds_at {earlier later : List Event} {event : Event}
    (h : Tells p (earlier ++ event :: later) q) : (earlier.foldl apply p).Refunds event := by
  induction earlier generalizing p with
  | nil =>
    cases h with
    | cons refunds _ => exact refunds
  | cons x rest ih =>
    cases h with
    | cons _ tells => exact ih tells

end

end Replica

namespace Registry

section
variable {L : Type} [Ledger L]

/-- what events can tell of a registry -/
def replica (r : Registry L) : Replica :=
  ⟨r.channels, r.lastSession, r.nextNonce⟩

/-! ## The tables -/

section
variable {r r' : Registry L} {sender receiver : Account} {amount : Amount}

theorem replica_revalue {ends : Ends} {c : Channel} (hc : r.channels.get? ends = some c)
    (value : Amount → Amount) :
    r.replica.revalue ends value = { r.replica with
      channels := r.channels.insert ends { c with balance := value c.balance } } := by
  rw [Replica.revalue, show r.replica.channels.get? ends = some c from hc]
  rfl

theorem tells_retired {ends : Ends} {c : Channel} {now : Height} (hf : r.Filed)
    (hc : r.channels.get? ends = some c) (h : Retired r ends now c r') :
    r.replica.Tells [(closingOf c now).event] r'.replica := by
  have hends : c.ends = ends := hf ends c hc
  have hcopy : r.replica.channels.get? c.ends = some c := by
    rw [hends]
    exact hc
  have happly : r.replica.apply (closingOf c now).event = r'.replica := by
    show r.replica.clear c.ends = r'.replica
    rw [Replica.clear, hcopy, hends]
    have hsession : Function.update r.lastSession ends Word.zero = r'.lastSession := by
      funext e
      rw [Function.update_apply, h.lastSession]
    have hnonce : Function.update r.nextNonce ends (c.nonce.satAdd Word.one) = r'.nextNonce := by
      funext e
      rw [Function.update_apply, h.nextNonce]
    show Replica.mk (r.channels.erase ends) (Function.update r.lastSession ends Word.zero)
      (Function.update r.nextNonce ends (c.nonce.satAdd Word.one)) = r'.replica
    rw [hsession, hnonce, ← h.channels]
    rfl
  rw [← happly]
  exact .single ⟨c, hcopy, rfl⟩

theorem tells_cleared (hf : r.Filed) (ends : Ends) :
    r.replica.Tells (r.displaced ends) (r.cleared ends).replica := by
  cases hc : r.channels.get? ends with
  | none =>
    rw [cleared_of_none hc, displaced_of_none hc]
    exact .nil _
  | some c =>
    rw [displaced_of_get? hc]
    exact tells_retired hf hc (cleared_of_get? hc)

theorem tells_closeAll (now : Height) (keys : List Ends) {r : Registry L} (hf : r.Filed) :
    r.replica.Tells ((r.closeAll now keys).1.map Closing.event)
      (r.closeAll now keys).2.replica := by
  induction keys generalizing r with
  | nil => exact .nil _
  | cons ends rest ih =>
    rw [closeAll_cons, List.map_append]
    refine .append ?_ (ih (filed_close hf ends now))
    cases hc : r.channels.get? ends with
    | none =>
      rw [close_of_none hc]
      exact .nil _
    | some c =>
      obtain ⟨hclosing, -, hret⟩ := close_of_get? hc now
      rw [hclosing]
      exact tells_retired hf hc hret

theorem tells_opened {duration : Height} {channel : Channel} (hf : r.Filed)
    (h : Opened r sender receiver amount duration channel r') :
    r.replica.Tells (r.displaced ⟨sender, receiver⟩ ++ [.opened channel]) r'.replica := by
  refine (tells_cleared hf ⟨sender, receiver⟩).append ?_
  have hsession : (r.cleared ⟨sender, receiver⟩).lastSession = r'.lastSession :=
    funext fun e => (h.lastSession e).symm
  have hnonce : (r.cleared ⟨sender, receiver⟩).nextNonce = r'.nextNonce :=
    funext fun e => (h.nextNonce e).symm
  have happly : (r.cleared ⟨sender, receiver⟩).replica.apply (.opened channel) = r'.replica := by
    show Replica.mk ((r.cleared ⟨sender, receiver⟩).channels.insert channel.ends channel)
      (r.cleared ⟨sender, receiver⟩).lastSession (r.cleared ⟨sender, receiver⟩).nextNonce
      = r'.replica
    rw [hsession, hnonce, h.ends, insert_channels_cleared, ← h.channels]
    rfl
  rw [← happly]
  exact .single trivial

theorem tells_funded {c channel : Channel} (h : Funded r sender receiver amount c channel r') :
    r.replica.Tells [.funded sender receiver amount r.height] r'.replica := by
  have hsum : c.balance.satAdd amount = channel.balance := by
    apply Word.ext
    have hfit : c.balance.val + amount.val < 2 ^ 128 := by
      rw [h.balance]
      exact channel.balance.val_lt
    rw [Amount.val_satAdd_of_lt hfit, h.balance]
  have hchannel : ({ c with balance := c.balance.satAdd amount } : Channel) = channel := by
    rw [hsum]
    exact h.channel_eq.symm
  have hsession : r.lastSession = r'.lastSession := funext fun e => (h.lastSession e).symm
  have hnonce : r.nextNonce = r'.nextNonce := funext fun e => (h.nextNonce e).symm
  have happly : r.replica.apply (.funded sender receiver amount r.height) = r'.replica := by
    refine (replica_revalue h.found fun x => x.satAdd amount).trans ?_
    rw [hchannel, ← h.channels]
    show Replica.mk r'.channels r.lastSession r.nextNonce = r'.replica
    rw [hsession, hnonce]
    rfl
  rw [← happly]
  exact .single trivial

theorem tells_redeemed {S : SignatureScheme} {sessionId : SessionId} {signature : Bytes}
    {c : Channel} {receipt : Receipt}
    (h : Redeemed S r sender receiver sessionId amount signature c receipt r') :
    r.replica.Tells [.claimed sender receiver sessionId amount] r'.replica := by
  have hsession : Function.update r.lastSession ⟨sender, receiver⟩ sessionId = r'.lastSession := by
    funext e
    rw [Function.update_apply, h.lastSession]
  have hnonce : r.nextNonce = r'.nextNonce := funext fun e => (h.nextNonce e).symm
  have happly : r.replica.apply (.claimed sender receiver sessionId amount) = r'.replica := by
    show { r.replica.revalue ⟨sender, receiver⟩ fun x => x.satSub amount with
      lastSession := Function.update r.lastSession ⟨sender, receiver⟩ sessionId } = r'.replica
    rw [replica_revalue h.found, ← h.channels, hsession]
    show Replica.mk r'.channels r'.lastSession r.nextNonce = r'.replica
    rw [hnonce]
    rfl
  rw [← happly]
  exact .single trivial

end

/-- the events of an operation lead from the registry before it to the one after it -/
theorem tells_perform (S : SignatureScheme) {r : Registry L} (hf : r.Filed)
    (operation : Operation) :
    r.replica.Tells (r.entry S operation).emitted (r.perform S operation).2.replica := by
  show r.replica.Tells (r.emittedBy operation (r.perform S operation).1)
    (r.perform S operation).2.replica
  obtain ⟨answer, r', hp, hout⟩ := exists_outcome S r operation
  rw [hp]
  dsimp only
  cases hout with
  | refused operation refusal =>
    rw [emittedBy_refused]
    exact .nil _
  | refusedDebit operation refusal account x ledger hd =>
    rw [emittedBy_refused]
    exact .nil _
  | opened sender receiver amount duration channel r' h => exact tells_opened hf h
  | funded sender receiver amount c channel r' h => exact tells_funded h
  | redeemed sender receiver sessionId amount signature c receipt r' h => exact tells_redeemed h
  | closed caller sender receiver party => exact tells_closeAll _ _ hf
  | closedExpired caller => exact tells_closeAll _ _ hf
  | swept => exact tells_closeAll _ _ hf
  | tookEvents => exact .nil _
  | drained => exact .nil _

theorem tells_run {β : Type} (S : SignatureScheme) (change : β → L → L) (ledger : L)
    (moves : List (Move β)) :
    Replica.empty.Tells (emitted ((ofLedger ledger).journal S change moves))
      ((ofLedger ledger).after S change moves).replica := by
  have hrun : ((ofLedger ledger).after S change moves).Filed ∧
      Replica.empty.Tells (emitted ((ofLedger ledger).journal S change moves))
        ((ofLedger ledger).after S change moves).replica := by
    apply run_induction S change
      (P := fun entries r => r.Filed ∧ Replica.empty.Tells (emitted entries) r.replica)
    · exact ⟨filed_ofLedger ledger, .nil _⟩
    · rintro entries r operation ⟨hf, htells⟩
      rw [emitted_append, emitted_singleton]
      exact ⟨filed_perform S hf operation, htells.append (tells_perform S hf operation)⟩
    · exact fun entries r b h => h
  exact hrun.2

end

/-! ## The free balances -/

/-- what an event adds to a free balance, less than nothing where it takes from it -/
def gain (a : Account) : Event → Int
  | .opened c => if c.sender = a then -c.balance.val else 0
  | .funded sender _ amount _ => if sender = a then -amount.val else 0
  | .claimed _ receiver _ amount => if receiver = a then amount.val else 0
  | .closed sender _ refunded _ => if sender = a then refunded.val else 0

def gains (a : Account) (events : List Event) : Int :=
  (events.map (gain a)).sum

theorem gains_append (a : Account) (events more : List Event) :
    gains a (events ++ more) = gains a events + gains a more := by
  unfold gains
  rw [List.map_append, List.sum_append]

theorem gains_singleton (a : Account) (event : Event) : gains a [event] = gain a event :=
  List.sum_singleton

/-- every free balance has moved by what the events add to it -/
def Booked (r : Registry BalanceSheet) (events : List Event) (r' : Registry BalanceSheet) : Prop :=
  ∀ a, ((r'.ledger.free a).val : Int) = (r.ledger.free a).val + gains a events

section
variable {r q r' : Registry BalanceSheet} {supply : Nat} {sender receiver : Account}
  {amount : Amount}

theorem Booked.refl (r : Registry BalanceSheet) : Booked r [] r :=
  fun _ => (Int.add_zero _).symm

theorem Booked.append {events more : List Event} (h : Booked r events q) (h' : Booked q more r') :
    Booked r (events ++ more) r' := by
  intro a
  rw [h' a, h a, gains_append, Int.add_assoc]

theorem booked_close (hfit : supply < 2 ^ 128) (h : Balanced supply r) {ends : Ends} {c : Channel}
    (hc : r.channels.get? ends = some c) (now : Height) :
    Booked r [(closingOf c now).event] (r.close ends now).2 := by
  obtain ⟨-, hledger, -⟩ := close_of_get? hc now
  have hsender : c.sender = ends.sender := congrArg Ends.sender (h.filed ends c hc)
  have hown := free_add_balanceAt_le h.filed ends
  rw [balanceAt_of_get? hc, h.worth, ← hsender] at hown
  intro a
  have hfree := r.ledger.val_free_credit c.sender a c.balance (Nat.lt_of_le_of_lt hown hfit)
  rw [gains_singleton, hledger]
  show (((r.ledger.credit c.sender c.balance).free a).val : Int)
    = (r.ledger.free a).val + if c.sender = a then (c.balance.val : Int) else 0
  by_cases ha : c.sender = a
  · rw [if_pos ha.symm] at hfree
    rw [if_pos ha]
    omega
  · rw [if_neg (Ne.symm ha)] at hfree
    rw [if_neg ha]
    omega

theorem booked_closeAll (hfit : supply < 2 ^ 128) (now : Height) (keys : List Ends)
    {r : Registry BalanceSheet} (h : Balanced supply r) :
    Booked r ((r.closeAll now keys).1.map Closing.event) (r.closeAll now keys).2 := by
  induction keys generalizing r with
  | nil => exact .refl r
  | cons ends rest ih =>
    rw [closeAll_cons, List.map_append]
    cases hc : r.channels.get? ends with
    | none =>
      rw [close_of_none hc]
      exact ih h
    | some c =>
      rw [(close_of_get? hc now).1]
      exact (booked_close hfit h hc now).append (ih (balanced_close hfit h hc now))

theorem gains_displaced (hf : r.Filed) (ends : Ends) (a : Account) :
    gains a (r.displaced ends) = if ends.sender = a then ((r.balanceAt ends).val : Int) else 0 := by
  cases hc : r.channels.get? ends with
  | none =>
    rw [displaced_of_none hc, balanceAt_of_none hc]
    exact (ite_self 0).symm
  | some c =>
    have hsender : c.sender = ends.sender := congrArg Ends.sender (hf ends c hc)
    rw [displaced_of_get? hc, gains_singleton, balanceAt_of_get? hc, ← hsender]
    rfl

theorem booked_opened (hfit : supply < 2 ^ 128) (h : Balanced supply r) {duration : Height}
    {channel : Channel} (ho : Opened r sender receiver amount duration channel r') :
    Booked r (r.displaced ⟨sender, receiver⟩ ++ [.opened channel]) r' := by
  have hsender : channel.sender = sender := congrArg Ends.sender ho.ends
  intro a
  have ha := (ho.settles h.filed (h.worth ▸ hfit)).2 a
  rw [gains_append, gains_singleton, gains_displaced h.filed]
  show ((r'.ledger.free a).val : Int) = (r.ledger.free a).val
    + ((if sender = a then ((r.balanceAt ⟨sender, receiver⟩).val : Int) else 0)
      + if channel.sender = a then -(channel.balance.val : Int) else 0)
  rw [hsender, ho.balance]
  by_cases hs : sender = a
  · rw [if_pos hs.symm, if_pos hs.symm] at ha
    rw [if_pos hs, if_pos hs]
    omega
  · rw [if_neg (Ne.symm hs), if_neg (Ne.symm hs)] at ha
    rw [if_neg hs, if_neg hs]
    omega

theorem booked_funded {c channel : Channel} (h : Funded r sender receiver amount c channel r') :
    Booked r [.funded sender receiver amount r.height] r' := by
  intro a
  have hfree := BalanceSheet.val_free_debit h.debited a
  rw [gains_singleton]
  show ((r'.ledger.free a).val : Int)
    = (r.ledger.free a).val + if sender = a then -(amount.val : Int) else 0
  by_cases ha : sender = a
  · rw [if_pos ha.symm] at hfree
    rw [if_pos ha]
    omega
  · rw [if_neg (Ne.symm ha)] at hfree
    rw [if_neg ha]
    omega

theorem booked_redeemed (hfit : supply < 2 ^ 128) (h : Balanced supply r) {S : SignatureScheme}
    {sessionId : SessionId} {signature : Bytes} {c : Channel} {receipt : Receipt}
    (hr : Redeemed S r sender receiver sessionId amount signature c receipt r') :
    Booked r [.claimed sender receiver sessionId amount] r' := by
  have hled : r'.ledger = r.ledger.credit receiver amount := hr.ledger
  have hcov := hr.covered
  have hown := r.free_add_balance_le receiver ⟨sender, receiver⟩
  rw [balanceAt_of_get? hr.found, h.worth] at hown
  intro a
  have hfree := r.ledger.val_free_credit receiver a amount (by omega)
  rw [gains_singleton, hled]
  show (((r.ledger.credit receiver amount).free a).val : Int)
    = (r.ledger.free a).val + if receiver = a then (amount.val : Int) else 0
  by_cases ha : receiver = a
  · rw [if_pos ha.symm] at hfree
    rw [if_pos ha]
    omega
  · rw [if_neg (Ne.symm ha)] at hfree
    rw [if_neg ha]
    omega

theorem booked_perform (S : SignatureScheme) (hfit : supply < 2 ^ 128) (h : Balanced supply r)
    (operation : Operation) :
    Booked r (r.entry S operation).emitted (r.perform S operation).2 := by
  show Booked r (r.emittedBy operation (r.perform S operation).1) (r.perform S operation).2
  obtain ⟨answer, r', hp, hout⟩ := exists_outcome S r operation
  rw [hp]
  dsimp only
  cases hout with
  | refused operation refusal =>
    rw [emittedBy_refused]
    exact .refl r
  | refusedDebit operation refusal account x ledger hd =>
    rw [emittedBy_refused, eq_of_refusedDebit hd]
    exact .refl r
  | opened sender receiver amount duration channel r' ho => exact booked_opened hfit h ho
  | funded sender receiver amount c channel r' hf => exact booked_funded hf
  | redeemed sender receiver sessionId amount signature c receipt r' hr =>
    exact booked_redeemed hfit h hr
  | closed caller sender receiver party => exact booked_closeAll hfit _ _ h
  | closedExpired caller => exact booked_closeAll hfit _ _ h
  | swept => exact booked_closeAll hfit _ _ h
  | tookEvents => exact .refl r
  | drained => exact .refl r

theorem booked_run (S : SignatureScheme) (sheet : BalanceSheet)
    (hfit : sheet.totalIssuance < 2 ^ 128) (moves : List (Move Passage)) :
    Booked (ofLedger sheet) (emitted ((ofLedger sheet).journal S BalanceSheet.pass moves))
      ((ofLedger sheet).after S BalanceSheet.pass moves) := by
  have hrun := run_induction S BalanceSheet.pass
    (P := fun entries r => Kept sheet entries r ∧ Booked (ofLedger sheet) (emitted entries) r)
    ⟨kept_ofLedger sheet, .refl _⟩ ?_ ?_ moves
  · exact hrun.2
  · rintro entries r operation ⟨hkept, hbooked⟩
    rw [emitted_append, emitted_singleton]
    exact ⟨kept_perform S hfit hkept operation,
      hbooked.append (booked_perform S hfit hkept.balanced operation)⟩
  · rintro entries r p ⟨hkept, hbooked⟩
    refine ⟨kept_pass hkept p, fun a => ?_⟩
    rw [← hbooked a]
    unfold BalanceSheet.free
    rw [BalanceSheet.balances_pass]

end

/-! ## All that the events tell -/

/-- the events of a run tell all of it.  Over any ledger, every operation logs its events one after
the other; taking them gives the newest 1024 of those since they were last taken, oldest first;
replayed from nothing, the events give the channels, the last session and the next nonce of every
pair; and each refund is what the replica has in the channel by then.  Over a balance sheet whose
total fits in an amount, and which nobody else writes to, they account for every free balance. -/
theorem events_tell_all (S : SignatureScheme) :
    (∀ (L β : Type) [Ledger L] (change : β → L → L) (ledger : L) (moves : List (Move β)),
      let journal := (ofLedger ledger).journal S change moves
      let r := (ofLedger ledger).after S change moves
      (∀ operation, operation ≠ .takeEvents →
        (r.perform S operation).2.events = (r.entry S operation).emitted.foldl logged r.events) ∧
      (r.perform S .takeEvents).1
        = .events ((untaken journal).drop ((untaken journal).length - 1024)) ∧
      (Replica.replay (emitted journal)).channels = r.channels ∧
      (∀ ends, (Replica.replay (emitted journal)).lastSession ends = r.lastSession ends) ∧
      (∀ ends, (Replica.replay (emitted journal)).nextNonce ends = r.nextNonce ends) ∧
      ∀ earlier later sender receiver refunded height,
        emitted journal = earlier ++ .closed sender receiver refunded height :: later →
        ∃ c, (Replica.replay earlier).channels.get? ⟨sender, receiver⟩ = some c ∧
          c.balance = refunded) ∧
    ∀ (sheet : BalanceSheet) (moves : List (Move Passage)),
      sheet.totalIssuance ≤ 2 ^ 128 - 1 → ∀ a,
      ((((ofLedger sheet).after S BalanceSheet.pass moves).ledger.free a).val : Int)
        = (sheet.free a).val
          + gains a (emitted ((ofLedger sheet).journal S BalanceSheet.pass moves)) := by
  refine ⟨?_, ?_⟩
  · intro L β _ change ledger moves journal r
    have htells : Replica.empty.Tells (emitted journal) r.replica :=
      tells_run S change ledger moves
    have hreplay : Replica.replay (emitted journal) = r.replica := htells.foldl_eq
    have hlog : r.events = newest (untaken journal) := events_run S change ledger moves
    rw [hreplay]
    refine ⟨fun _ h => events_perform S r h, congrArg Answer.events hlog, rfl, fun ends => rfl,
      fun ends => rfl, ?_⟩
    intro earlier later sender receiver refunded height hsplit
    rw [hsplit] at htells
    exact htells.refunds_at
  · intro sheet moves hfit
    exact booked_run S sheet (Nat.lt_succ_of_le hfit) moves

/-- under a scheme that takes every signature, a channel of 40 is claimed from, expires, and is
opened anew with 50: five events, of which the closing refunds the 30 that are left -/
theorem events_tell_all_reopened :
    let scheme : SignatureScheme := ⟨fun _ => .repeated 0, fun _ _ => List.replicate 64 0,
      fun _ _ _ => true, fun _ _ => List.length_replicate⟩
    let ends : Ends := ⟨.repeated 1, .repeated 2⟩
    let sheet := BalanceSheet.ofList [(ends.sender, ⟨100, by decide⟩)]
    let moves : List (Move Passage) :=
      [.ask (.openChannel ends.sender ends.receiver ⟨35, by decide⟩ ⟨5, by decide⟩),
        .ask (.addBalance ends.sender ends.receiver ⟨5, by decide⟩),
        .ask (.claim ends.sender ends.receiver Word.one ⟨10, by decide⟩ []), .ask .takeEvents,
        .elapse (.advance ⟨5, by decide⟩),
        .ask (.openChannel ends.sender ends.receiver ⟨50, by decide⟩ ⟨5, by decide⟩)]
    let events := emitted ((ofLedger sheet).journal scheme BalanceSheet.pass moves)
    let r := (ofLedger sheet).after scheme BalanceSheet.pass moves
    sheet.totalIssuance ≤ 2 ^ 128 - 1 ∧
      events.length = 5 ∧
      (∃ c, (Replica.replay (events.take 3)).channels.get? ends = some c ∧
        c.balance = ⟨30, by decide⟩) ∧
      ((r.ledger.free ends.sender).val : Int) = 100 + (-35 - 5 + 30 - 50) := by
  intro scheme ends sheet moves events r
  have hfit : sheet.totalIssuance ≤ 2 ^ 128 - 1 := by decide +kernel
  have hclosing : events = events.take 3 ++
      .closed ends.sender ends.receiver ⟨30, by decide⟩ ⟨5, by decide⟩ :: events.drop 4 := by
    decide +kernel
  obtain ⟨hall, hfree⟩ := events_tell_all scheme
  obtain ⟨-, -, -, -, -, hrefund⟩ := hall BalanceSheet Passage BalanceSheet.pass sheet moves
  refine ⟨hfit, by decide +kernel, hrefund _ _ _ _ _ _ hclosing, ?_⟩
  rw [hfree sheet moves hfit ends.sender]
  decide +kernel

end Registry
end PayChannel
