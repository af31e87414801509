import Mathlib
import PayChannel.Registry.Operations

/-!
# What bookkeeping does to a registry

Each helper of the operations changes one or two tables and leaves the others alone.  Closing a
channel is the only one that touches many: the channel goes, its pair moves on to the next nonce,
its session mark goes, its funds are unlocked and an event is logged.

* `totalLocked_lock`, `totalLocked_unlock`    what is locked, as one equation each;
* `Retired`    all that taking a channel off a registry does; `retire_of_get?` shows it;
* `close_of_get?`, `close_of_none`    closing with the refund;
* `closeAll_cons`    closing one channel after the other.
-/

set_option linter.unusedSectionVars false

namespace PayChannel.Registry

variable {L : Type}

/-! ## Helpers that change one table -/

section
variable (r : Registry L) (a : Account) (amount : Amount)

theorem unlock_eq : ∃ locked, r.unlock a amount = { r with locked } := by
  unfold unlock
  split
  · exact ⟨r.locked, rfl⟩
  · dsimp only
    split
    · exact ⟨_, rfl⟩
    · exact ⟨_, rfl⟩

@[simp] theorem ledger_unlock : (r.unlock a amount).ledger = r.ledger := by
  obtain ⟨locked, h⟩ := r.unlock_eq a amount
  rw [h]

@[simp] theorem paid_unlock : (r.unlock a amount).paid = r.paid := by
  obtain ⟨locked, h⟩ := r.unlock_eq a amount
  rw [h]

@[simp] theorem clients_unlock : (r.unlock a amount).clients = r.clients := by
  obtain ⟨locked, h⟩ := r.unlock_eq a amount
  rw [h]

@[simp] theorem events_unlock : (r.unlock a amount).events = r.events := by
  obtain ⟨locked, h⟩ := r.unlock_eq a amount
  rw [h]

theorem totalLocked_lock (b : Account) :
    (r.lock a amount).totalLocked b
      = if b = a then (r.totalLocked a).satAdd amount else r.totalLocked b := by
  unfold totalLocked lock
  rw [Table.get?_insert]
  split <;> rfl

theorem totalLocked_unlock (b : Account) :
    (r.unlock a amount).totalLocked b
      = if b = a then (r.totalLocked a).satSub amount else r.totalLocked b := by
  have hzero : ∀ x : Amount, x.val = 0 → x = Word.zero := fun x hx => Word.ext hx
  unfold unlock totalLocked
  cases ha : r.locked.get? a with
  | none =>
    by_cases hb : b = a
    · rw [if_pos hb, hb, ha]
      exact (hzero _ (Nat.zero_sub _)).symm
    · rw [if_neg hb]
  | some total =>
    dsimp only
    by_cases hr : (total.satSub amount).val = 0
    · rw [if_pos hr, Table.get?_erase]
      split
      · exact (hzero _ hr).symm
      · rfl
    · rw [if_neg hr, Table.get?_insert]
      split <;> rfl

end

section
variable (r : Registry L) (event : Event)

@[simp] theorem ledger_emit : (r.emit event).ledger = r.ledger := rfl
@[simp] theorem channels_emit : (r.emit event).channels = r.channels := rfl
@[simp] theorem nonces_emit : (r.emit event).nonces = r.nonces := rfl
@[simp] theorem sessions_emit : (r.emit event).sessions = r.sessions := rfl
@[simp] theorem paid_emit : (r.emit event).paid = r.paid := rfl
@[simp] theorem clients_emit : (r.emit event).clients = r.clients := rfl

/-- what a log keeps when an event comes in -/
def logged (events : List Event) (event : Event) : List Event :=
  (if events.length = eventCapacity then events.drop 1 else events) ++ [event]

@[simp] theorem events_emit : (r.emit event).events = logged r.events event := rfl

end

section
variable (r : Registry L) (sender receiver : Account) (amount : Amount)

@[simp] theorem ledger_recordPayment :
    (r.recordPayment sender receiver amount).ledger = r.ledger := rfl
@[simp] theorem channels_recordPayment :
    (r.recordPayment sender receiver amount).channels = r.channels := rfl
@[simp] theorem nonces_recordPayment :
    (r.recordPayment sender receiver amount).nonces = r.nonces := rfl
@[simp] theorem sessions_recordPayment :
    (r.recordPayment sender receiver amount).sessions = r.sessions := rfl
@[simp] theorem events_recordPayment :
    (r.recordPayment sender receiver amount).events = r.events := rfl

end

/-! ## Taking a channel off -/

/-- all that happens to the tables when the channel `c` between `ends` is taken off -/
structure Retired (r : Registry L) (ends : Ends) (now : Height) (c : Channel)
    (r' : Registry L) : Prop where
  channels : r'.channels = r.channels.erase ends
  nextNonce : ∀ e, r'.nextNonce e = if e = ends then c.nonce.satAdd Word.one else r.nextNonce e
  lastSession : ∀ e, r'.lastSession e = if e = ends then Word.zero else r.lastSession e
  totalLocked : ∀ a, r'.totalLocked a
    = if a = c.sender then (r.totalLocked c.sender).satSub c.balance else r.totalLocked a
  paid : r'.paid = r.paid
  clients : r'.clients = r.clients
  events : r'.events = logged r.events (.closed c.sender c.receiver c.balance now)

def closingOf (c : Channel) (now : Height) : Closing :=
  ⟨c.sender, c.receiver, c.nonce, c.balance, now⟩

theorem ledger_retire (r : Registry L) (ends : Ends) (now : Height) :
    (r.retire ends now).2.ledger = r.ledger := by
  cases h : r.channels.get? ends with
  | none => rw [retire_none h]
  | some c => simp only [retire, h, ledger_emit, ledger_unlock]

theorem retire_withLedger (r : Registry L) (ledger : L) (ends : Ends) (now : Height) :
    ({ r with ledger } : Registry L).retire ends now
      = ((r.retire ends now).1, { (r.retire ends now).2 with ledger }) := by
  cases h : r.channels.get? ends with
  | none => simp only [retire, h]
  | some c =>
    simp only [retire, h, unlock]
    cases r.locked.get? c.sender with
    | none => rfl
    | some total =>
      dsimp only
      split <;> rfl

theorem retire_of_get? {r : Registry L} {ends : Ends} {c : Channel}
    (h : r.channels.get? ends = some c) (now : Height) :
    (r.retire ends now).1 = some (closingOf c now) ∧ Retired r ends now c (r.retire ends now).2 := by
  refine ⟨by simp only [retire, h, closingOf], ?_⟩
  constructor
  · simp only [retire, h, channels_emit, channels_unlock]
  · exact fun e => nextNonce_retire h e now
  · exact fun e => lastSession_retire h e now
  · intro a
    have hu := ({ r with channels := r.channels.erase ends } : Registry L).totalLocked_unlock
      c.sender c.balance a
    simp only [retire, h]
    exact hu
  · simp only [retire, h, paid_emit, paid_unlock]
  · simp only [retire, h, clients_emit, clients_unlock]
  · simp only [retire, h, events_emit, events_unlock]

/-! ## Closing with the refund -/

section
variable [Ledger L]

theorem close_of_none {r : Registry L} {ends : Ends} (h : r.channels.get? ends = none)
    (now : Height) : r.close ends now = (none, r) := by
  rw [close, retire_none h]

theorem close_of_get? {r : Registry L} {ends : Ends} {c : Channel}
    (h : r.channels.get? ends = some c) (now : Height) :
    (r.close ends now).1 = some (closingOf c now) ∧
      (r.close ends now).2.ledger = Ledger.credit r.ledger c.sender c.balance ∧
      Retired r ends now c (r.close ends now).2 := by
  obtain ⟨hclosing, hret⟩ := retire_of_get? h now
  have hledger := r.ledger_retire ends now
  have hpair : r.retire ends now = (some (closingOf c now), (r.retire ends now).2) :=
    Prod.ext hclosing rfl
  unfold close
  rw [hpair]
  refine ⟨rfl, ?_, ?_⟩
  · simp only [hledger, closingOf]
  · exact ⟨hret.channels, hret.nextNonce, hret.lastSession, hret.totalLocked, hret.paid,
      hret.clients, hret.events⟩

theorem closeAll_cons (r : Registry L) (now : Height) (ends : Ends) (rest : List Ends) :
    r.closeAll now (ends :: rest)
      = ((r.close ends now).1.toList ++ ((r.close ends now).2.closeAll now rest).1,
          ((r.close ends now).2.closeAll now rest).2) := by
  rw [closeAll]
  rcases r.close ends now with ⟨_ | closing, r'⟩
  · rfl
  · rfl

/-- what every closing keeps, closing one channel after the other keeps -/
theorem closeAll_keeps {P : Registry L → Prop} {now : Height}
    (step : ∀ r ends c, P r → r.channels.get? ends = some c → P (r.close ends now).2)
    (keys : List Ends) {r : Registry L} (h : P r) : P (r.closeAll now keys).2 := by
  induction keys generalizing r with
  | nil => exact h
  | cons ends rest ih =>
    rw [closeAll_cons]
    apply ih
    cases hc : r.channels.get? ends with
    | none =>
      rw [close_of_none hc]
      exact h
    | some c => exact step r ends c h hc

end

end PayChannel.Registry
