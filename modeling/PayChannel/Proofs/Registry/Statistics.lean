import Mathlib
import PayChannel.Proofs.Registry.Run

/-!
# What statistics tell

Statistics are kept in two tables, one of totals and one of payers, that start afresh whenever they
are drained.  Drains cut the accepted payments of a run into periods, and every drain tells of the
payments since the one before it: each of them once, and none of another period.

* `Payment`, `accepted`, `periods`    the payments of a run, and how drains cut them;
* `Reports`    statistics tell of exactly these payments;
* `Counted`, `counted_perform`    the tables hold the payments of the period so far;
* `statistics_tell_each_once`    drains and reads tell of one period after the other.
-/

set_option linter.unusedSectionVars false

namespace PayChannel

theorem Table.mem_keys_iff {κ ν : Type} [ByteKey κ] [DecidableEq κ] (t : Table κ ν) (k : κ) :
    k ∈ t.keys ↔ t.contains k = true := by
  unfold Table.keys Table.contains
  rw [List.mem_map, Option.isSome_iff_exists]
  constructor
  · rintro ⟨⟨_, v⟩, he, rfl⟩
    exact ⟨v, (Table.get?_eq_some_iff _ _ _).mpr he⟩
  · rintro ⟨v, hv⟩
    exact ⟨(k, v), (Table.get?_eq_some_iff _ _ _).mp hv, rfl⟩

theorem Table.size_eq_card {κ ν : Type} [ByteKey κ] [DecidableEq κ] {t : Table κ ν} {s : Finset κ}
    (h : ∀ k, t.contains k = true ↔ k ∈ s) : t.size = s.card := by
  have hnodup : t.keys.Nodup := t.keys_sorted.imp fun hlt => ByteKey.ne_of_before hlt
  have hkeys : t.keys.toFinset = s := by
    ext k
    rw [List.mem_toFinset, t.mem_keys_iff, h]
  rw [← hkeys, List.toFinset_card_of_nodup hnodup, Table.keys, List.length_map]
  rfl

theorem Word.satAdd_clip {bits : Nat} (n : Nat) (a : Word bits) :
    (Word.clip n).satAdd a = Word.clip (n + a.val) := by
  apply Word.ext
  rw [Word.val_satAdd, Word.val_clip, Word.val_clip]
  omega

/-! ## Payments -/

structure Payment where
  sender : Account
  receiver : Account
  amount : Amount

def paymentsTo (a : Account) (payments : List Payment) : List Payment :=
  payments.filter (·.receiver = a)

def exactTotal (payments : List Payment) : Nat :=
  (payments.map fun p => p.amount.val).sum

def payers (payments : List Payment) : Finset Account :=
  (payments.map Payment.sender).toFinset

/-- statistics tell of exactly these payments: every receiver of one, and nobody else, is listed
once, in the order of accounts, with the sum of its payments, as far as an amount goes, and the
count of those who paid it, as far as it fits -/
structure Reports (statistics : List ReceiverStats) (payments : List Payment) : Prop where
  sorted : statistics.Pairwise fun x y => ByteKey.before x.receiver y.receiver
  receivers : ∀ a, (∃ x ∈ statistics, x.receiver = a) ↔ ∃ p ∈ payments, p.receiver = a
  total : ∀ x ∈ statistics,
    x.total.val = min (exactTotal (paymentsTo x.receiver payments)) (2 ^ 128 - 1)
  clients : ∀ x ∈ statistics,
    x.clients.val = (payers (paymentsTo x.receiver payments)).card % 2 ^ 32

theorem paymentsTo_append (a : Account) (payments more : List Payment) :
    paymentsTo a (payments ++ more) = paymentsTo a payments ++ paymentsTo a more :=
  List.filter_append ..

theorem exactTotal_append (payments more : List Payment) :
    exactTotal (payments ++ more) = exactTotal payments + exactTotal more := by
  simp [exactTotal]

theorem mem_payers_append (b : Account) (payments more : List Payment) :
    b ∈ payers (payments ++ more) ↔ b ∈ payers payments ∨ b ∈ payers more := by
  simp [payers]

theorem paymentsTo_ne_nil {a : Account} {payments : List Payment} :
    paymentsTo a payments ≠ [] ↔ ∃ p ∈ payments, p.receiver = a := by
  simp [paymentsTo]

namespace Registry

variable {L β : Type} [Ledger L]

/-- the payment that an entry tells of, if it is a claim that was accepted -/
def Entry.payment? (e : Entry L) : Option Payment :=
  match e.operation, e.answer with
  | .claim sender receiver _ amount _, .redeemed _ => some ⟨sender, receiver, amount⟩
  | _, _ => none

def Entry.isDrain (e : Entry L) : Bool :=
  match e.operation with
  | .drainStatistics => true
  | _ => false

/-- the statistics that a drain answered -/
def Entry.drained? (e : Entry L) : Option (List ReceiverStats) :=
  match e.operation, e.answer with
  | .drainStatistics, .statistics statistics => some statistics
  | _, _ => none

def accepted (entries : List (Entry L)) : List Payment :=
  entries.filterMap Entry.payment?

def drained (entries : List (Entry L)) : List (List ReceiverStats) :=
  entries.filterMap Entry.drained?

/-- the accepted payments of a run, cut wherever statistics were drained -/
def periods (entries : List (Entry L)) : List (List Payment) :=
  (entries.splitOnP Entry.isDrain).map accepted

theorem isDrain_of_ne {e : Entry L} (h : e.operation ≠ .drainStatistics) : e.isDrain = false := by
  unfold Entry.isDrain
  split
  · rename_i hdrain
    exact absurd hdrain h
  · rfl

theorem payment?_refused (r r' : Registry L) (operation : Operation) (refusal : Refusal) :
    Entry.payment? ⟨r, operation, .refused refusal, r'⟩ = none := by
  cases operation <;> rfl

theorem payment?_of_isDrain {e : Entry L} (h : e.isDrain = true) : e.payment? = none := by
  unfold Entry.isDrain at h
  unfold Entry.payment?
  split at h
  · rename_i hdrain
    rw [hdrain]
  · cases h

theorem drained?_of_ne {e : Entry L} (h : e.operation ≠ .drainStatistics) : e.drained? = none := by
  unfold Entry.drained?
  split
  · rename_i hdrain _
    exact absurd hdrain h
  · rfl

theorem accepted_cons (e : Entry L) (entries : List (Entry L)) :
    accepted (e :: entries) = e.payment?.toList ++ accepted entries := by
  unfold accepted
  rw [List.filterMap_cons]
  cases e.payment? <;> rfl

theorem periods_of_isDrain {e : Entry L} (h : e.isDrain = true) (entries : List (Entry L)) :
    periods (e :: entries) = [] :: periods entries := by
  unfold periods
  rw [List.splitOnP_cons_eq_if_modifyHead, if_pos h]
  rfl

theorem periods_of_not {e : Entry L} (h : e.isDrain = false) (entries : List (Entry L)) :
    periods (e :: entries) = (periods entries).modifyHead (e.payment?.toList ++ ·) := by
  unfold periods
  rw [List.splitOnP_cons_eq_if_modifyHead, if_neg (by rw [h]; exact Bool.false_ne_true)]
  cases entries.splitOnP Entry.isDrain with
  | nil => rfl
  | cons first rest =>
    rw [List.modifyHead_cons, List.map_cons, List.map_cons, List.modifyHead_cons, accepted_cons]

/-- no payment falls out of its period, or into two -/
theorem flatten_periods (entries : List (Entry L)) :
    (periods entries).flatten = accepted entries := by
  induction entries with
  | nil => rfl
  | cons e rest ih =>
    rw [accepted_cons, ← ih]
    cases h : e.isDrain with
    | true =>
      rw [periods_of_isDrain h, payment?_of_isDrain h]
      rfl
    | false =>
      rw [periods_of_not h]
      cases hrest : periods rest with
      | nil => exact absurd (List.map_eq_nil_iff.mp hrest) (List.splitOnP_ne_nil _ _)
      | cons first others => rw [List.modifyHead_cons, List.flatten_cons, List.flatten_cons,
          List.append_assoc]

/-! ## What the tables hold -/

def payersOf (r : Registry L) (a : Account) : Table Account Unit :=
  (r.clients.get? a).getD Table.empty

/-- the tables hold the payments of the period so far -/
structure Counted (payments : List Payment) (r : Registry L) : Prop where
  paid : ∀ a, r.paid.get? a = if paymentsTo a payments = [] then none
    else some (Word.clip (exactTotal (paymentsTo a payments)))
  clients : ∀ a b, (r.payersOf a).contains b = true ↔ b ∈ payers (paymentsTo a payments)

theorem counted_nil {r : Registry L} (hpaid : r.paid = Table.empty)
    (hclients : r.clients = Table.empty) : Counted [] r := by
  refine ⟨fun a => ?_, fun a b => ?_⟩
  · rw [hpaid]
    rfl
  · unfold payersOf
    rw [hclients]
    simp [paymentsTo, payers, Table.contains]

section
variable {r r' : Registry L} {payments : List Payment}

theorem Counted.of_eq (h : Counted payments r) (hpaid : r'.paid = r.paid)
    (hclients : r'.clients = r.clients) : Counted payments r' := by
  refine ⟨fun a => hpaid ▸ h.paid a, fun a b => ?_⟩
  unfold payersOf
  rw [hclients]
  exact h.clients a b

theorem Counted.total_eq (h : Counted payments r) (a : Account) :
    (r.paid.get? a).getD Word.zero = Word.clip (exactTotal (paymentsTo a payments)) := by
  rw [h.paid a]
  split
  · rename_i hnone
    rw [hnone]
    rfl
  · rfl

theorem Counted.recordPayment (h : Counted payments r) (sender receiver : Account)
    (amount : Amount) :
    Counted (payments ++ [⟨sender, receiver, amount⟩])
      (r.recordPayment sender receiver amount) := by
  have hother : ∀ a, a ≠ receiver →
      paymentsTo a (payments ++ [⟨sender, receiver, amount⟩]) = paymentsTo a payments := by
    intro a ha
    rw [paymentsTo_append]
    simp [paymentsTo, Ne.symm ha]
  have hself : paymentsTo receiver (payments ++ [⟨sender, receiver, amount⟩])
      = paymentsTo receiver payments ++ [⟨sender, receiver, amount⟩] := by
    rw [paymentsTo_append]
    simp [paymentsTo]
  refine ⟨fun a => ?_, fun a b => ?_⟩
  · show (r.paid.insert receiver _).get? a = _
    rw [Table.get?_insert]
    by_cases ha : a = receiver
    · subst ha
      rw [if_pos rfl, hself, if_neg (List.append_ne_nil_of_right_ne_nil _ (List.cons_ne_nil _ _)),
        h.total_eq, Word.satAdd_clip, exactTotal_append]
      rfl
    · rw [if_neg ha, hother a ha, h.paid a]
  · show (((r.clients.insert receiver ((r.payersOf receiver).insert sender ())).get? a).getD
      Table.empty).contains b = true ↔ _
    rw [Table.get?_insert]
    by_cases ha : a = receiver
    · subst ha
      rw [if_pos rfl, Option.getD_some, hself, mem_payers_append, ← h.clients a b]
      unfold Table.contains
      rw [Table.get?_insert]
      by_cases hb : b = sender
      · simp [hb, payers]
      · simp [hb, payers]
    · rw [if_neg ha, hother a ha]
      exact h.clients a b

theorem Counted.closeAll (h : Counted payments r) (now : Height) (keys : List Ends) :
    Counted payments (r.closeAll now keys).2 := by
  apply closeAll_keeps (P := Counted payments)
  · intro q ends c hq hc
    obtain ⟨-, -, hret⟩ := close_of_get? hc now
    exact hq.of_eq hret.paid hret.clients
  · exact h

/-- an operation that is no drain adds its payment to the period, if it makes one -/
theorem counted_outcome {S : SignatureScheme} {operation : Operation} {answer : Answer}
    (h : Counted payments r) (hout : Outcome S r operation answer r')
    (hdrain : operation ≠ .drainStatistics) :
    Counted (payments ++ (Entry.payment? ⟨r, operation, answer, r'⟩).toList) r' := by
  have hsame : Counted payments r' →
      Counted (payments ++ (none : Option Payment).toList) r' := by
    rw [Option.toList_none, List.append_nil]
    exact id
  cases hout with
  | refused operation refusal =>
    rw [payment?_refused]
    exact hsame h
  | refusedDebit operation refusal account x ledger hd =>
    rw [payment?_refused]
    exact hsame (h.of_eq rfl rfl)
  | opened sender receiver amount duration channel r' ho =>
    exact hsame (h.of_eq ho.paid ho.clients)
  | funded sender receiver amount c channel r' hf => exact hsame (h.of_eq hf.paid hf.clients)
  | redeemed sender receiver sessionId amount signature c receipt r' hr =>
    exact (h.recordPayment sender receiver amount).of_eq hr.paid hr.clients
  | closed caller sender receiver party => exact hsame (h.closeAll _ _)
  | closedExpired caller => exact hsame (h.closeAll _ _)
  | swept => exact hsame (h.closeAll _ _)
  | tookEvents => exact hsame (h.of_eq rfl rfl)
  | drained => exact absurd rfl hdrain

/-- what is read off the tables tells of the payments that they hold -/
theorem Counted.reports (h : Counted payments r) : Reports r.statistics payments := by
  have hpaid : ∀ e ∈ r.paid.entries, r.paid.get? e.1 = some e.2 :=
    fun e he => (Table.get?_eq_some_iff _ _ _).mpr he
  refine ⟨?_, fun a => ?_, fun x hx => ?_, fun x hx => ?_⟩
  · exact List.pairwise_map.mpr r.paid.sorted
  · rw [← paymentsTo_ne_nil]
    constructor
    · rintro ⟨x, hx, rfl⟩ hnone
      obtain ⟨e, he, rfl⟩ := List.mem_map.mp hx
      have hfound := hpaid e he
      rw [h.paid, if_pos hnone] at hfound
      cases hfound
    · intro hsome
      have hfound := h.paid a
      rw [if_neg hsome] at hfound
      exact ⟨_, List.mem_map.mpr ⟨_, (Table.get?_eq_some_iff _ _ _).mp hfound, rfl⟩, rfl⟩
  · obtain ⟨e, he, rfl⟩ := List.mem_map.mp hx
    have hfound := hpaid e he
    have htotal := h.total_eq e.1
    rw [hfound, Option.getD_some] at htotal
    dsimp only
    rw [htotal, Word.val_clip]
    rfl
  · obtain ⟨e, he, rfl⟩ := List.mem_map.mp hx
    have hsize : ((r.clients.get? e.1).map Table.size).getD 0 = (r.payersOf e.1).size := by
      unfold payersOf
      cases r.clients.get? e.1 <;> rfl
    dsimp only
    rw [hsize, Word.val_truncate, Table.size_eq_card (h.clients e.1)]
    rfl

end

/-! ## Runs -/

/-- drains and the statistics at the end of a run tell of one period after the other, the first of
them from the payments on that the tables hold before -/
theorem reports_run (S : SignatureScheme) (change : β → L → L) (moves : List (Move β))
    {r : Registry L} {payments : List Payment} (h : Counted payments r) :
    List.Forall₂ Reports
      (drained (r.journal S change moves) ++ [(r.after S change moves).statistics])
      ((periods (r.journal S change moves)).modifyHead (payments ++ ·)) := by
  induction moves generalizing r payments with
  | nil =>
    have hkept := h.reports
    rw [← List.append_nil payments] at hkept
    exact .cons hkept .nil
  | cons move rest ih =>
    cases move with
    | elapse b => exact ih (r := { r with ledger := change b r.ledger }) (h.of_eq rfl rfl)
    | ask operation =>
      have hout := outcome_perform S r operation
      rw [journal]
      by_cases hop : operation = .drainStatistics
      · -- the period ends here, and the next one starts with nothing
        subst hop
        have hkept := h.reports
        rw [← List.append_nil payments] at hkept
        have hrest := ih (r := (r.perform S .drainStatistics).2) (counted_nil rfl rfl)
        rw [periods_of_isDrain rfl]
        rw [show (([] : List Payment) ++ ·) = id from rfl, List.modifyHead_id] at hrest
        exact .cons hkept hrest
      · have hdrain : (r.entry S operation).isDrain = false := isDrain_of_ne hop
        have hrest := ih (counted_outcome h hout hop)
        have hshift : (payments ++ ·) ∘ ((r.entry S operation).payment?.toList ++ ·)
            = ((payments ++ (r.entry S operation).payment?.toList) ++ ·) :=
          funext fun more => (List.append_assoc _ _ more).symm
        rw [periods_of_not hdrain, List.modifyHead_modifyHead, hshift, drained,
          List.filterMap_cons, drained?_of_ne hop]
        exact hrest

/-- whatever is asked of a registry over any ledger, and whenever its statistics are drained or
read: each time they tell of exactly the payments accepted since the drain before, or since the
start, and those periods together are all payments that were ever accepted.  A read is a function of
the registry, and every beginning of a run is a run; so it is no loss to have it at the end -/
theorem statistics_tell_each_once (S : SignatureScheme) (change : β → L → L) (ledger : L)
    (moves : List (Move β)) :
    let entries := (ofLedger ledger).journal S change moves
    let r := (ofLedger ledger).after S change moves
    List.Forall₂ Reports (drained entries ++ [r.statistics]) (periods entries) ∧
      (periods entries).flatten = accepted entries := by
  intro entries r
  refine ⟨?_, flatten_periods entries⟩
  have hrun := reports_run S change moves (counted_nil (r := ofLedger ledger) rfl rfl)
  rw [show (([] : List Payment) ++ ·) = id from rfl, List.modifyHead_id] at hrun
  exact hrun

end Registry
end PayChannel
