import Mathlib
import PayChannel.Ledger.BalanceSheet
import PayChannel.Proofs.Registry.Notes

/-!
# Generations of a pair

Whenever a channel of a pair is closed, in whichever way, the pair moves on to the next nonce and
its session mark goes.  So vouchers of one generation are worth nothing in the next, and within a
generation the session mark rises with every payment.  The argument needs nonces that have not
reached the largest word, where they stop.

* `Aligned`    the open channel has the nonce of its pair, and a pair without one has no session;
* `Issued`, `Paid`    nonces and payments so far are below the nonce and the session of the pair;
* `Books`, `Covered`    what one generation took in and paid out, against the balance;
* `redeemed_once`    what all this comes to over a whole run.
-/

set_option linter.unusedSectionVars false

namespace PayChannel

/-- the payments among the notes on a pair: the nonce of the channel, and the session -/
def payments (notes : List Note) : List (Nonce × SessionId) :=
  notes.filterMap fun
    | .redeemed nonce sessionId _ => some (nonce, sessionId)
    | _ => none

def openings (notes : List Note) : List Channel :=
  notes.filterMap fun
    | .opened _ channel => some channel
    | _ => none

def Earlier (p q : Nonce × SessionId) : Prop :=
  p.1 < q.1 ∨ p.1 = q.1 ∧ p.2 < q.2

/-- the books of one generation: its nonce, what opening locked, what was added, what was claimed -/
structure Books where
  nonce : Nonce
  locked : Nat
  added : Nat
  claimed : Nat

/-- the books after one more note; they are closed with the channel -/
def Books.enter : Option Books → Note → Option Books
  | _, .opened amount channel => some ⟨channel.nonce, amount.val, 0, 0⟩
  | books, .funded amount => books.map fun b => { b with added := b.added + amount.val }
  | books, .redeemed _ _ amount => books.map fun b => { b with claimed := b.claimed + amount.val }
  | _, .closed _ => none

def books (notes : List Note) : Option Books :=
  notes.foldl Books.enter none

/-- the books are open under a nonce, and what came in is what was claimed and a balance -/
def Covered (books : Option Books) (nonce : Nonce) (balance : Amount) : Prop :=
  ∃ b, books = some b ∧ b.nonce = nonce ∧ b.locked + b.added = b.claimed + balance.val

theorem payments_append (notes more : List Note) :
    payments (notes ++ more) = payments notes ++ payments more :=
  List.filterMap_append

theorem openings_append (notes more : List Note) :
    openings (notes ++ more) = openings notes ++ openings more :=
  List.filterMap_append

theorem books_append (notes more : List Note) :
    books (notes ++ more) = more.foldl Books.enter (books notes) :=
  List.foldl_append

theorem not_earlier_self (p : Nonce × SessionId) : ¬ Earlier p p := by
  rintro (h | ⟨-, h⟩)
  · exact Nat.lt_irrefl _ h
  · exact Nat.lt_irrefl _ h

theorem Nonce.val_satAdd_one {n : Nonce} (h : n.val < 2 ^ 64 - 1) :
    (n.satAdd Word.one).val = n.val + 1 := by
  rw [Word.val_satAdd, Word.val_one]
  exact Nat.min_eq_left h

namespace Registry

variable {L β : Type} [Ledger L]

/-! ## What ties the tables of a pair together -/

/-- the open channel has the nonce of its pair, and a pair without a channel has no session -/
structure Aligned (ends : Ends) (r : Registry L) : Prop where
  nonce : ∀ c, r.channels.get? ends = some c → c.nonce = r.nextNonce ends
  vacant : r.channels.get? ends = none → r.lastSession ends = Word.zero

section
variable {ends : Ends} {notes new : List Note} {r r' : Registry L}

theorem aligned_found {channel : Channel} (hfound : r'.channels.get? ends = some channel)
    (hnonce : channel.nonce = r'.nextNonce ends) : Aligned ends r' := by
  refine ⟨fun c hc => ?_, fun hc => ?_⟩
  · cases hfound.symm.trans hc
    exact hnonce
  · cases hfound.symm.trans hc

theorem aligned_step (h : Aligned ends r) (hs : PairStep ends r r' new) : Aligned ends r' := by
  cases hs with
  | untouched same =>
    refine ⟨fun c hc => ?_, fun hc => ?_⟩
    · rw [same.nextNonce]
      exact h.nonce c (same.channel.symm.trans hc)
    · rw [same.lastSession]
      exact h.vacant (same.channel.symm.trans hc)
  | opened amount channel vacant nonce balance found nextNonce lastSession =>
    exact aligned_found found (nonce.trans nextNonce.symm)
  | reopened amount c channel stale nonce balance found nextNonce lastSession reported =>
    exact aligned_found found nextNonce.symm
  | funded amount c channel before nonce balance found nextNonce lastSession =>
    exact aligned_found found (nonce.trans ((h.nonce c before).trans nextNonce.symm))
  | redeemed sessionId amount c channel before nonce balance found nextNonce fresh lastSession =>
    exact aligned_found found (nonce.trans ((h.nonce c before).trans nextNonce.symm))
  | closed c now moved =>
    refine ⟨fun c' hc => ?_, fun hc => moved.lastSession⟩
    cases moved.channel.symm.trans hc

theorem Aligned.val_satAdd_one (h : Aligned ends r) {c : Channel}
    (hc : r.channels.get? ends = some c) (hbound : c.nonce.val < 2 ^ 64 - 1) :
    (c.nonce.satAdd Word.one).val = (r.nextNonce ends).val + 1 := by
  rw [Nonce.val_satAdd_one hbound, h.nonce c hc]

/-! ## Nonces that have been given out -/

/-- the channels opened so far have rising nonces, up to that of the pair; the open channel is the
last of them -/
structure Issued (ends : Ends) (notes : List Note) (r : Registry L) : Prop where
  listed : ∀ c, r.channels.get? ends = some c → ∃ o ∈ openings notes, o.nonce = c.nonce
  le : ∀ o ∈ openings notes, o.nonce.val ≤ (r.nextNonce ends).val
  lt : r.channels.get? ends = none → ∀ o ∈ openings notes, o.nonce.val < (r.nextNonce ends).val
  rising : (openings notes).Pairwise fun c d => c.nonce < d.nonce

theorem issued_opening (h : Issued ends notes r) (amount : Amount) {channel : Channel}
    (hnew : ∀ o ∈ openings notes, o.nonce.val < channel.nonce.val)
    (hfound : r'.channels.get? ends = some channel)
    (hnext : r'.nextNonce ends = channel.nonce) :
    Issued ends (notes ++ [.opened amount channel]) r' := by
  have happ : openings (notes ++ [.opened amount channel]) = openings notes ++ [channel] :=
    openings_append notes _
  constructor
  · intro c hc
    cases hfound.symm.trans hc
    refine ⟨channel, ?_, rfl⟩
    rw [happ]
    exact List.mem_append_right _ List.mem_cons_self
  · intro o ho
    rw [happ] at ho
    rw [hnext]
    rcases List.mem_append.mp ho with ho | ho
    · exact Nat.le_of_lt (hnew o ho)
    · rw [List.mem_singleton.mp ho]
  · intro hc
    cases hfound.symm.trans hc
  · rw [happ]
    refine List.pairwise_append.mpr ⟨h.rising, List.pairwise_singleton _ _, ?_⟩
    intro o ho c hc
    rw [List.mem_singleton.mp hc]
    exact hnew o ho

theorem issued_same (h : Issued ends notes r) (hnone : openings new = [])
    (hlisted : ∀ c, r'.channels.get? ends = some c →
      ∃ c', r.channels.get? ends = some c' ∧ c'.nonce = c.nonce)
    (hvacant : r'.channels.get? ends = none → r.channels.get? ends = none)
    (hnext : r'.nextNonce ends = r.nextNonce ends) : Issued ends (notes ++ new) r' := by
  have happ : openings (notes ++ new) = openings notes := by
    rw [openings_append, hnone, List.append_nil]
  constructor
  · intro c hc
    obtain ⟨c', hc', hnonce⟩ := hlisted c hc
    obtain ⟨o, ho, hoc⟩ := h.listed c' hc'
    rw [happ]
    exact ⟨o, ho, hoc.trans hnonce⟩
  · rw [happ, hnext]
    exact h.le
  · intro hc
    rw [happ, hnext]
    exact h.lt (hvacant hc)
  · rw [happ]
    exact h.rising

theorem issued_step (ha : Aligned ends r) (h : Issued ends notes r)
    (hbound : ∀ c, r.channels.get? ends = some c → c.nonce.val < 2 ^ 64 - 1)
    (hs : PairStep ends r r' new) : Issued ends (notes ++ new) r' := by
  cases hs with
  | untouched same =>
    refine issued_same h rfl (fun c hc => ⟨c, same.channel.symm.trans hc, rfl⟩) ?_ same.nextNonce
    exact fun hc => same.channel.symm.trans hc
  | opened amount channel vacant nonce balance found nextNonce lastSession =>
    refine issued_opening h amount (fun o ho => ?_) found (nextNonce.trans nonce.symm)
    rw [nonce]
    exact h.lt vacant o ho
  | reopened amount c channel stale nonce balance found nextNonce lastSession reported =>
    refine issued_opening h amount (fun o ho => ?_) found nextNonce
    rw [nonce, ha.val_satAdd_one stale (hbound c stale)]
    exact Nat.lt_succ_of_le (h.le o ho)
  | funded amount c channel before nonce balance found nextNonce lastSession =>
    refine issued_same h rfl (fun c' hc => ?_) (fun hc => ?_) nextNonce
    · cases found.symm.trans hc
      exact ⟨c, before, nonce.symm⟩
    · cases found.symm.trans hc
  | redeemed sessionId amount c channel before nonce balance found nextNonce fresh lastSession =>
    refine issued_same h rfl (fun c' hc => ?_) (fun hc => ?_) nextNonce
    · cases found.symm.trans hc
      exact ⟨c, before, nonce.symm⟩
    · cases found.symm.trans hc
  | closed c now moved =>
    have happ : openings (notes ++ [.closed (closingOf c now)]) = openings notes := by
      rw [openings_append]
      exact List.append_nil _
    have hlt : ∀ o ∈ openings notes, o.nonce.val < (r'.nextNonce ends).val := by
      intro o ho
      rw [moved.nextNonce, ha.val_satAdd_one moved.found (hbound c moved.found)]
      exact Nat.lt_succ_of_le (h.le o ho)
    constructor
    · intro c' hc
      cases moved.channel.symm.trans hc
    · rw [happ]
      exact fun o ho => Nat.le_of_lt (hlt o ho)
    · rw [happ]
      exact fun _ => hlt
    · rw [happ]
      exact h.rising

/-! ## Payments that have been made -/

/-- the payments so far rise, by nonce and then by session, and none of them is above the nonce and
the session of the pair -/
structure Paid (ends : Ends) (notes : List Note) (r : Registry L) : Prop where
  past : ∀ p ∈ payments notes, p.1.val < (r.nextNonce ends).val ∨
    p.1 = r.nextNonce ends ∧ p.2.val ≤ (r.lastSession ends).val
  positive : ∀ p ∈ payments notes, 1 ≤ p.2.val
  rising : (payments notes).Pairwise Earlier

theorem paid_same (h : Paid ends notes r) (hnone : payments new = [])
    (hpast : ∀ p ∈ payments notes, p.1.val < (r'.nextNonce ends).val ∨
      p.1 = r'.nextNonce ends ∧ p.2.val ≤ (r'.lastSession ends).val) :
    Paid ends (notes ++ new) r' := by
  have happ : payments (notes ++ new) = payments notes := by
    rw [payments_append, hnone, List.append_nil]
  constructor
  · rw [happ]
    exact hpast
  · rw [happ]
    exact h.positive
  · rw [happ]
    exact h.rising

theorem paid_kept (h : Paid ends notes r) (hnone : payments new = [])
    (hnext : r'.nextNonce ends = r.nextNonce ends)
    (hlast : r'.lastSession ends = r.lastSession ends) : Paid ends (notes ++ new) r' := by
  refine paid_same h hnone ?_
  rw [hnext, hlast]
  exact h.past

/-- a pair that has moved on to a later generation is past all its payments, whatever its session -/
theorem paid_raised (h : Paid ends notes r) (hnone : payments new = [])
    (hnext : (r.nextNonce ends).val < (r'.nextNonce ends).val) : Paid ends (notes ++ new) r' := by
  refine paid_same h hnone fun p hp => .inl ?_
  rcases h.past p hp with hlt | ⟨heq, -⟩
  · exact Nat.lt_trans hlt hnext
  · rw [heq]
    exact hnext

theorem paid_redeemed (h : Paid ends notes r) {nonce : Nonce} {sessionId : SessionId}
    (amount : Amount) (hnonce : nonce = r.nextNonce ends)
    (hnext : r'.nextNonce ends = r.nextNonce ends) (hlast : r'.lastSession ends = sessionId)
    (hfresh : (r.lastSession ends).val < sessionId.val) :
    Paid ends (notes ++ [.redeemed nonce sessionId amount]) r' := by
  have happ : payments (notes ++ [.redeemed nonce sessionId amount])
      = payments notes ++ [(nonce, sessionId)] := payments_append notes _
  constructor
  · intro p hp
    rw [happ] at hp
    rw [hnext, hlast]
    rcases List.mem_append.mp hp with hp | hp
    · rcases h.past p hp with hlt | ⟨heq, hle⟩
      · exact .inl hlt
      · exact .inr ⟨heq, Nat.le_of_lt (Nat.lt_of_le_of_lt hle hfresh)⟩
    · obtain rfl := List.mem_singleton.mp hp
      exact .inr ⟨hnonce, Nat.le_refl _⟩
  · intro p hp
    rw [happ] at hp
    rcases List.mem_append.mp hp with hp | hp
    · exact h.positive p hp
    · obtain rfl := List.mem_singleton.mp hp
      exact Nat.lt_of_le_of_lt (Nat.zero_le _) hfresh
  · rw [happ]
    refine List.pairwise_append.mpr ⟨h.rising, List.pairwise_singleton _ _, ?_⟩
    intro p hp q hq
    obtain rfl := List.mem_singleton.mp hq
    rcases h.past p hp with hlt | ⟨heq, hle⟩
    · exact .inl (hnonce ▸ hlt)
    · exact .inr ⟨heq.trans hnonce.symm, Nat.lt_of_le_of_lt hle hfresh⟩

theorem paid_step (ha : Aligned ends r) (h : Paid ends notes r)
    (hbound : ∀ c, r.channels.get? ends = some c → c.nonce.val < 2 ^ 64 - 1)
    (hs : PairStep ends r r' new) : Paid ends (notes ++ new) r' := by
  cases hs with
  | untouched same => exact paid_kept h rfl same.nextNonce same.lastSession
  | opened amount channel vacant nonce balance found nextNonce lastSession =>
    exact paid_kept h rfl nextNonce lastSession
  | reopened amount c channel stale nonce balance found nextNonce lastSession reported =>
    refine paid_raised h rfl ?_
    rw [nextNonce, nonce, ha.val_satAdd_one stale (hbound c stale)]
    exact Nat.lt_succ_self _
  | funded amount c channel before nonce balance found nextNonce lastSession =>
    exact paid_kept h rfl nextNonce lastSession
  | redeemed sessionId amount c channel before nonce balance found nextNonce fresh lastSession =>
    exact paid_redeemed h amount (ha.nonce c before) nextNonce lastSession fresh
  | closed c now moved =>
    refine paid_raised h rfl ?_
    rw [moved.nextNonce, ha.val_satAdd_one moved.found (hbound c moved.found)]
    exact Nat.lt_succ_self _

/-! ## The books of a generation -/

/-- the books are open exactly if the channel is, and come to its balance -/
structure Accounted (ends : Ends) (notes : List Note) (r : Registry L) : Prop where
  vacant : r.channels.get? ends = none → books notes = none
  balance : ∀ c, r.channels.get? ends = some c → Covered (books notes) c.nonce c.balance

theorem accounted_opening (notes : List Note) {amount : Amount} {channel : Channel}
    (hbalance : channel.balance = amount) (hfound : r'.channels.get? ends = some channel) :
    Accounted ends (notes ++ [.opened amount channel]) r' := by
  refine ⟨fun hc => ?_, fun c hc => ?_⟩
  · cases hfound.symm.trans hc
  · cases hfound.symm.trans hc
    rw [books_append]
    refine ⟨_, rfl, rfl, ?_⟩
    show amount.val + 0 = 0 + channel.balance.val
    rw [hbalance, Nat.add_zero, Nat.zero_add]

theorem accounted_step (h : Accounted ends notes r) (hs : PairStep ends r r' new) :
    Accounted ends (notes ++ new) r' := by
  cases hs with
  | untouched same =>
    rw [List.append_nil]
    exact ⟨fun hc => h.vacant (same.channel.symm.trans hc),
      fun c hc => h.balance c (same.channel.symm.trans hc)⟩
  | opened amount channel vacant nonce balance found nextNonce lastSession =>
    exact accounted_opening notes balance found
  | reopened amount c channel stale nonce balance found nextNonce lastSession reported =>
    exact accounted_opening notes balance found
  | funded amount c channel before nonce balance found nextNonce lastSession =>
    obtain ⟨b, hb, hnonce, hsum⟩ := h.balance c before
    refine ⟨fun hc => ?_, fun c' hc => ?_⟩
    · cases found.symm.trans hc
    · cases found.symm.trans hc
      rw [books_append, hb]
      refine ⟨_, rfl, hnonce.trans nonce.symm, ?_⟩
      show b.locked + (b.added + amount.val) = b.claimed + channel.balance.val
      omega
  | redeemed sessionId amount c channel before nonce balance found nextNonce fresh lastSession =>
    obtain ⟨b, hb, hnonce, hsum⟩ := h.balance c before
    refine ⟨fun hc => ?_, fun c' hc => ?_⟩
    · cases found.symm.trans hc
    · cases found.symm.trans hc
      rw [books_append, hb]
      refine ⟨_, rfl, hnonce.trans nonce.symm, ?_⟩
      show b.locked + b.added = b.claimed + amount.val + channel.balance.val
      omega
  | closed c now moved =>
    refine ⟨fun _ => ?_, fun c' hc => ?_⟩
    · rw [books_append]
      rfl
    · cases moved.channel.symm.trans hc

/-- what an entry tells about giving back a balance agrees with the books before it: a closing
reports it, and opening over an expired channel logs it -/
structure Refunded (ends : Ends) (books : Option Books) (e : Entry L) : Prop where
  closed : ∀ x, .closed x ∈ e.notes ends → Covered books x.nonce x.refunded
  superseded : ∀ amount channel, .opened amount channel ∈ e.notes ends → books ≠ none →
    ∃ earlier nonce refund, Covered books nonce refund ∧ e.after.events = earlier ++
      [.closed ends.sender ends.receiver refund e.before.height, .opened channel]

theorem refunded_entry {e : Entry L} (h : Accounted ends notes e.before)
    (hs : PairStep ends e.before e.after (e.notes ends)) : Refunded ends (books notes) e := by
  obtain ⟨new, hnew⟩ : ∃ new, e.notes ends = new := ⟨_, rfl⟩
  rw [hnew] at hs
  constructor
  · intro x hx
    rw [hnew] at hx
    cases hs with
    | untouched same => cases hx
    | opened => cases List.mem_singleton.mp hx
    | reopened => cases List.mem_singleton.mp hx
    | funded => cases List.mem_singleton.mp hx
    | redeemed => cases List.mem_singleton.mp hx
    | closed c now moved =>
      cases List.mem_singleton.mp hx
      exact h.balance c moved.found
  · intro amount channel hx hopen
    rw [hnew] at hx
    cases hs with
    | untouched same => cases hx
    | opened amount channel vacant => exact absurd (h.vacant vacant) hopen
    | reopened amount c channel stale nonce balance found nextNonce lastSession reported =>
      cases List.mem_singleton.mp hx
      obtain ⟨earlier, hevents⟩ := reported
      exact ⟨earlier, c.nonce, c.balance, h.balance c stale, hevents⟩
    | funded => cases List.mem_singleton.mp hx
    | redeemed => cases List.mem_singleton.mp hx
    | closed => cases List.mem_singleton.mp hx

end

/-! ## Whole runs -/

/-- all that is kept about a pair during a run -/
structure Chronicle (ends : Ends) (entries : List (Entry L)) (r : Registry L) : Prop where
  filed : r.Filed
  aligned : Aligned ends r
  issued : Issued ends (history ends entries) r
  paid : Paid ends (history ends entries) r
  accounted : Accounted ends (history ends entries) r
  refunded : ∀ earlier e later, entries = earlier ++ e :: later →
    Refunded ends (books (history ends earlier)) e

theorem chronicle_ofLedger (ends : Ends) (ledger : L) : Chronicle ends [] (ofLedger ledger) where
  filed := filed_ofLedger ledger
  aligned := ⟨fun _ hc => (nomatch hc), fun _ => rfl⟩
  issued := ⟨fun _ hc => (nomatch hc), fun _ ho => (nomatch ho), fun _ _ ho => (nomatch ho), .nil⟩
  paid := ⟨fun _ hp => (nomatch hp), fun _ hp => (nomatch hp), .nil⟩
  accounted := ⟨fun _ => rfl, fun _ hc => (nomatch hc)⟩
  refunded := by
    intro earlier e later h
    cases earlier <;> cases h

theorem chronicle_perform (S : SignatureScheme) {ends : Ends} {entries : List (Entry L)}
    {r : Registry L} (h : Chronicle ends entries r)
    (hbound : ∀ c, r.channels.get? ends = some c → c.nonce.val < 2 ^ 64 - 1)
    (operation : Operation) :
    Chronicle ends (entries ++ [r.entry S operation]) (r.perform S operation).2 := by
  have hs := pair_step S h.filed ends operation
  have happ : history ends (entries ++ [r.entry S operation])
      = history ends entries ++ (r.entry S operation).notes ends := by
    rw [history_append, history_singleton]
  constructor
  · exact filed_perform S h.filed operation
  · exact aligned_step h.aligned hs
  · rw [happ]
    exact issued_step h.aligned h.issued hbound hs
  · rw [happ]
    exact paid_step h.aligned h.paid hbound hs
  · rw [happ]
    exact accounted_step h.accounted hs
  · intro earlier e later heq
    rcases List.eq_nil_or_concat later with rfl | ⟨init, last, rfl⟩
    · obtain ⟨rfl, he⟩ := List.append_inj' heq rfl
      cases he
      exact refunded_entry h.accounted hs
    · rw [List.concat_eq_append, ← List.cons_append, ← List.append_assoc] at heq
      obtain ⟨hinit, -⟩ := List.append_inj' heq rfl
      exact h.refunded earlier e init hinit

theorem chronicle_run (S : SignatureScheme) (change : β → L → L) (ledger : L) (ends : Ends)
    (moves : List (Move β))
    (hbound : ∀ c ∈ openings (history ends ((ofLedger ledger).journal S change moves)),
      c.nonce.val < 2 ^ 64 - 1) :
    Chronicle ends ((ofLedger ledger).journal S change moves)
      ((ofLedger ledger).after S change moves) := by
  refine run_induction S change (P := fun entries r =>
    (∀ c ∈ openings (history ends entries), c.nonce.val < 2 ^ 64 - 1) → Chronicle ends entries r)
    (fun _ => chronicle_ofLedger ends ledger) ?_ ?_ moves hbound
  · intro entries r operation ih hb
    rw [history_append, openings_append] at hb
    have hc := ih fun c hc => hb c (List.mem_append_left _ hc)
    refine chronicle_perform S hc (fun c hget => ?_) operation
    obtain ⟨o, ho, hnonce⟩ := hc.issued.listed c hget
    rw [← hnonce]
    exact hb o (List.mem_append_left _ ho)
  · intro entries r b ih hb
    have hc := ih hb
    exact ⟨hc.filed, ⟨hc.aligned.nonce, hc.aligned.vacant⟩,
      ⟨hc.issued.listed, hc.issued.le, hc.issued.lt, hc.issued.rising⟩,
      ⟨hc.paid.past, hc.paid.positive, hc.paid.rising⟩,
      ⟨hc.accounted.vacant, hc.accounted.balance⟩, hc.refunded⟩

/-- a pair whose channels have nonces below the largest word: its payments rise by nonce and then
by session, so none is made twice; so do the nonces of its channels; and in every generation what
was locked and added is what was claimed and the balance, which is what closing gives back -/
theorem redeemed_once (S : SignatureScheme) (change : β → L → L) (ledger : L) (ends : Ends)
    (moves : List (Move β))
    (hbound : ∀ c ∈ openings (history ends ((ofLedger ledger).journal S change moves)),
      c.nonce.val < 2 ^ 64 - 1) :
    let journal := (ofLedger ledger).journal S change moves
    let r := (ofLedger ledger).after S change moves
    (payments (history ends journal)).Pairwise Earlier ∧
    (∀ p ∈ payments (history ends journal), 1 ≤ p.2.val) ∧
    (payments (history ends journal)).Nodup ∧
    ((openings (history ends journal)).Pairwise fun c d => c.nonce < d.nonce) ∧
    (r.channels.get? ends = none → books (history ends journal) = none) ∧
    (∀ c, r.channels.get? ends = some c →
      Covered (books (history ends journal)) c.nonce c.balance) ∧
    ∀ earlier e later, journal = earlier ++ e :: later →
      Refunded ends (books (history ends earlier)) e := by
  have h := chronicle_run S change ledger ends moves hbound
  have hnodup : (payments (history ends ((ofLedger ledger).journal S change moves))).Nodup := by
    refine h.paid.rising.imp ?_
    rintro p q hpq rfl
    exact not_earlier_self p hpq
  exact ⟨h.paid.rising, h.paid.positive, hnodup, h.issued.rising, h.accounted.vacant,
    h.accounted.balance, h.refunded⟩

/-- a voucher is redeemed, the channel is closed and opened again, and the voucher is presented once
more: it has been paid once -/
theorem redeemed_once_reopened :
    let secret : Secret := ⟨List.replicate 32 1, by decide⟩
    let ends : Ends := ⟨ed25519.account secret, .repeated 2⟩
    let amount : Amount := ⟨10, by decide⟩
    let voucher := ed25519.voucher secret ends.receiver Word.zero Word.one amount
    let opening := Operation.openChannel ends.sender ends.receiver amount ⟨100, by decide⟩
    let claim := Operation.claim ends.sender ends.receiver voucher.sessionId voucher.amount
      voucher.signature
    let moves : List (Move Height) :=
      [.ask opening, .ask claim, .ask (.closeChannel ends.receiver ends.sender ends.receiver),
        .elapse Word.one, .ask opening, .ask claim]
    let sheet := BalanceSheet.ofList [(ends.sender, ⟨100, by decide⟩)]
    let journal := (ofLedger sheet).journal ed25519 (fun h s => s.advance h) moves
    (∀ c ∈ openings (history ends journal), c.nonce.val < 2 ^ 64 - 1) ∧
      payments (history ends journal) = [(Word.zero, Word.one)] ∧
      (payments (history ends journal)).Nodup := by
  intro secret ends amount voucher opening claim moves sheet journal
  have hrun : (∀ c ∈ openings (history ends journal), c.nonce.val < 2 ^ 64 - 1) ∧
      payments (history ends journal) = [(Word.zero, Word.one)] := by decide +kernel
  exact ⟨hrun.1, hrun.2, (redeemed_once ed25519 _ sheet ends moves hrun.1).2.2.1⟩

end Registry
end PayChannel
