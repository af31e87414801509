import Mathlib
import PayChannel.Proofs.Registry.Emission
import PayChannel.Proofs.Registry.Freezing

/-!
# What a sweep does

Whoever closes what is due collects the pairs first and then closes their channels one by one, while
the tables that they were collected from change.  Still every channel that is due is closed once and
reported once, in the order of the pairs, and nothing else is touched.

* `DuesClosed`    exactly the channels that are due and chosen have been closed;
* `duesClosed_expiredEnds`    closing what is collected does that;
* `closeAll_expiredEnds_of_kept`    there is nothing left to close at the same height;
* `sweep_closes_dues`    both for a sweep, and for a caller who closes what is its own.
-/

set_option linter.unusedSectionVars false

namespace PayChannel.Registry

variable {L β : Type} [Ledger L]

/-- the channels that are due and pass a test have been closed, with the refunds to their senders and
an event for each; there is one report on each, in the order of the pairs, and none on another, and
all other pairs are as they were -/
structure DuesClosed (chosen : Channel → Bool) (r : Registry L) (closings : List Closing)
    (r' : Registry L) : Prop where
  sorted : (closings.map Closing.ends).Pairwise ByteKey.before
  reported : ∀ x, x ∈ closings ↔ ∃ c, r.channels.get? ⟨x.sender, x.receiver⟩ = some c ∧
    chosen c = true ∧ c.expiresAt ≤ r.height ∧ x.nonce = c.nonce ∧ x.refunded = c.balance ∧
    x.closedAt = r.height
  closed : ∀ ends c, r.channels.get? ends = some c → chosen c = true → c.expiresAt ≤ r.height →
    MovedOn ends c r r'
  kept : ∀ ends, (∀ c, r.channels.get? ends = some c → chosen c = true →
    ¬ c.expiresAt ≤ r.height) → Untouched ends r r'
  ledger : r'.ledger = closings.foldl (fun l x => Ledger.credit l x.sender x.refunded) r.ledger
  events : r'.events = (closings.map Closing.event).foldl logged r.events
  none_due : ∀ ends c, r'.channels.get? ends = some c → chosen c = true →
    ¬ c.expiresAt ≤ r.height

theorem isExpired_eq_false_iff (c : Channel) (height : Height) :
    c.isExpired height = false ↔ ¬ c.expiresAt ≤ height := by
  rw [Channel.isExpired, decide_eq_false_iff_not]

section
variable {r : Registry L} {ends : Ends} {c : Channel} {keys : List Ends}

theorem ledger_closeAll (r : Registry L) (now : Height) (keys : List Ends) :
    (r.closeAll now keys).2.ledger = (r.closeAll now keys).1.foldl
      (fun l x => Ledger.credit l x.sender x.refunded) r.ledger := by
  induction keys generalizing r with
  | nil => rfl
  | cons key rest ih =>
    rw [closeAll_cons]
    dsimp only
    rw [ih, List.foldl_append]
    cases hc : r.channels.get? key with
    | none =>
      rw [close_of_none hc]
      rfl
    | some c =>
      obtain ⟨hclosing, hledger, -⟩ := close_of_get? hc now
      rw [hclosing, hledger]
      rfl

theorem duesClosed_expiredEnds (hf : r.Filed) (chosen : Channel → Bool) :
    let swept := r.closeAll r.height (r.expiredEnds chosen)
    DuesClosed chosen r swept.1 swept.2 where
  sorted := by
    have hends := ends_closeAll_sublist hf r.height (r.expiredEnds chosen)
    exact r.channels.keys_sorted.sublist (hends.trans (expiredEnds_sublist hf chosen))
  reported x := by
    constructor
    · intro hx
      obtain ⟨d, hd, hsame⟩ := channel_of_mem_closeAll hf _ hx
      obtain ⟨c, hc, hchosen, hdue⟩ := (mem_expiredEnds hf chosen _).mp (mem_closeAll hf hx)
      obtain rfl : c = d := Option.some.inj (hc.symm.trans hd)
      rw [hsame]
      exact ⟨c, hsame ▸ hc, hchosen, of_decide_eq_true hdue, rfl, rfl, rfl⟩
    · -- the closing of a channel is all that a closing with its fields can be
      rintro ⟨c, hc, hchosen, hdue, hnonce, hrefunded, hclosed⟩
      have hends : c.ends = ⟨x.sender, x.receiver⟩ := hf _ c hc
      have hx : x = closingOf c r.height := by
        obtain ⟨sender, receiver, nonce, refunded, closedAt⟩ := x
        obtain ⟨hsender, hreceiver⟩ := Ends.mk.inj hends
        rw [closingOf, hsender, hreceiver, ← hnonce, ← hrefunded, ← hclosed]
      rw [hx]
      exact closingOf_mem_closeAll hf r.height hc
        ((mem_expiredEnds hf chosen _).mpr ⟨c, hc, hchosen, decide_eq_true hdue⟩)
  closed ends c hc hchosen hdue := (closeAll_of_mem hf r.height hc
    ((mem_expiredEnds hf chosen _).mpr ⟨c, hc, hchosen, decide_eq_true hdue⟩)).1
  kept ends h := by
    refine (closeAll_of_notMem hf r.height fun hmem => ?_).1
    obtain ⟨c, hc, hchosen, hdue⟩ := (mem_expiredEnds hf chosen _).mp hmem
    exact h c hc hchosen (of_decide_eq_true hdue)
  ledger := ledger_closeAll r _ _
  events := events_closeAll r _ _
  none_due ends c hc hchosen := (isExpired_eq_false_iff c _).mp (not_due_closeAll hf hc hchosen)

/-- where no chosen channel is due, closing what is due closes nothing and changes nothing -/
theorem closeAll_expiredEnds_of_kept (hf : r.Filed) {chosen : Channel → Bool}
    (h : ∀ ends c, r.channels.get? ends = some c → chosen c = true → ¬ c.expiresAt ≤ r.height) :
    r.closeAll r.height (r.expiredEnds chosen) = ([], r) := by
  rw [expiredEnds_eq_nil hf fun ends c hc hchosen => (isExpired_eq_false_iff c _).mpr
    (h ends c hc hchosen)]
  rfl

end

/-- in whatever state a registry is, over any ledger: a sweep closes exactly what is due, and a caller
who closes what is due closes exactly what it is a party to; and as long as the height stays the same,
nothing is left for a second sweep, for anybody after a sweep, or for the same caller again -/
theorem sweep_closes_dues (S : SignatureScheme) (change : β → L → L) (ledger : L)
    (moves : List (Move β)) :
    let r := (ofLedger ledger).after S change moves
    (DuesClosed (fun _ => true) r r.sweep.1 r.sweep.2 ∧
      ∀ l, Ledger.height l = r.height →
        let q : Registry L := { r.sweep.2 with ledger := l }
        q.sweep = ([], q) ∧ ∀ caller, q.closeExpired caller = ([], q)) ∧
    ∀ caller, DuesClosed (·.hasParty caller) r (r.closeExpired caller).1 (r.closeExpired caller).2 ∧
      ∀ l, Ledger.height l = r.height →
        let q : Registry L := { (r.closeExpired caller).2 with ledger := l }
        q.closeExpired caller = ([], q) := by
  intro r
  have hf : r.Filed := filed_run S change ledger moves
  have hswept : DuesClosed (fun _ => true) r r.sweep.1 r.sweep.2 := duesClosed_expiredEnds hf _
  refine ⟨⟨hswept, ?_⟩, fun caller => ⟨duesClosed_expiredEnds hf _, ?_⟩⟩
  · intro l hl q
    have hq : q.Filed := filed_closeAll (r := r) hf _ _
    have hnone : ∀ ends c, q.channels.get? ends = some c → ¬ c.expiresAt ≤ q.height := by
      intro ends c hc
      rw [show q.height = r.height from hl]
      exact hswept.none_due ends c hc rfl
    exact ⟨closeAll_expiredEnds_of_kept hq fun ends c hc _ => hnone ends c hc,
      fun caller => closeAll_expiredEnds_of_kept hq fun ends c hc _ => hnone ends c hc⟩
  · intro l hl q
    have hq : q.Filed := filed_closeAll (r := r) hf _ _
    have hclosed : DuesClosed (·.hasParty caller) r (r.closeExpired caller).1
        (r.closeExpired caller).2 := duesClosed_expiredEnds hf _
    refine closeAll_expiredEnds_of_kept hq fun ends c hc hparty => ?_
    rw [show q.height = r.height from hl]
    exact hclosed.none_due ends c hc hparty

/-- both channels of a run are due, and a balance sheet keeps its height while they are refunded -/
theorem sweep_twice_after_advance :
    let scheme : SignatureScheme := ⟨fun _ => .repeated 0, fun _ _ => List.replicate 64 0,
      fun _ _ _ => true, fun _ _ => List.length_replicate⟩
    let a : Account := .repeated 1
    let b : Account := .repeated 2
    let opening (sender receiver : Account) : Move Passage :=
      .ask (.openChannel sender receiver ⟨30, by decide⟩ ⟨10, by decide⟩)
    let moves : List (Move Passage) :=
      [opening a b, opening b a, .elapse (.advance ⟨10, by decide⟩)]
    let sheet := BalanceSheet.ofList [(a, ⟨100, by decide⟩), (b, ⟨100, by decide⟩)]
    let r := (ofLedger sheet).after scheme BalanceSheet.pass moves
    let l := r.sweep.2.ledger
    let q : Registry BalanceSheet := { r.sweep.2 with ledger := l }
    l.height = r.height ∧ q.sweep = ([], q) ∧ ∀ caller, q.closeExpired caller = ([], q) := by
  intro scheme a b opening moves sheet
  clear_value moves sheet
  intro r l q
  have hheight : Ledger.height l = r.height := height_closeAll r _ _
  exact ⟨hheight, (sweep_closes_dues scheme BalanceSheet.pass sheet moves).1.2 l hheight⟩

end PayChannel.Registry
