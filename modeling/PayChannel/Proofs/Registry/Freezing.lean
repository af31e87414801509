import Mathlib
import PayChannel.Proofs.Registry.Expiry
import PayChannel.Proofs.Registry.Consistency

/-!
# Channels between expiry and refund

From the height at which a channel expires, nothing can be added to it and no voucher is worth
anything, until somebody closes it.  There are four ways to: either end closes it, or all that is due
to it, or all that is due is swept, or the sender opens a new channel in its place.  The balance that
it had when it expired then goes to the sender and to nobody else.

* `Frozen`    an expired channel that is as it was, and the refusals that it meets;
* `Ending`, `Freed`    the ways in which it goes, and who gets what;
* `frozen_step`    an operation leaves it frozen, or frees it;
* `frozen_until_freed`    what can happen to it in a run.
-/

set_option linter.unusedSectionVars false

namespace PayChannel.Registry

/-! ## What is closed, and what comes back -/

def refundedTo (a : Account) (closings : List Closing) : Nat :=
  (closings.map fun x => if x.sender = a then x.refunded.val else 0).sum

theorem refundedTo_append (a : Account) (closings more : List Closing) :
    refundedTo a (closings ++ more) = refundedTo a closings + refundedTo a more := by
  unfold refundedTo
  rw [List.map_append, List.sum_append]

theorem refundedTo_closingOf (a : Account) (c : Channel) (now : Height) :
    refundedTo a [closingOf c now] = if c.sender = a then c.balance.val else 0 :=
  Nat.add_zero _

section
variable {L : Type} [Ledger L] {r : Registry L} {ends : Ends} {c : Channel} {keys : List Ends}

theorem closingOf_mem_closeAll (hf : r.Filed) (now : Height) (hc : r.channels.get? ends = some c)
    (hmem : ends ∈ keys) : closingOf c now ∈ (r.closeAll now keys).1 := by
  have hin : closingOf c now ∈ (r.closeAll now keys).1.filter (·.ends = ends) :=
    (closeAll_of_mem hf now hc hmem).2 ▸ List.mem_singleton_self _
  exact (List.mem_filter.mp hin).1

theorem channel_of_mem_closeAll (hf : r.Filed) (now : Height) {x : Closing}
    (hx : x ∈ (r.closeAll now keys).1) :
    ∃ d, r.channels.get? x.ends = some d ∧ x = closingOf d now := by
  have hin : x ∈ (r.closeAll now keys).1.filter (·.ends = x.ends) :=
    List.mem_filter.mpr ⟨hx, decide_eq_true rfl⟩
  rcases closeAll_pair x.ends now keys hf with ⟨d, hmoved, hone⟩ | ⟨-, hnone⟩
  · rw [hone] at hin
    exact ⟨d, hmoved.found, List.mem_singleton.mp hin⟩
  · rw [hnone] at hin
    cases hin

/-- an operation that tells nothing about a pair has left it alone -/
theorem untouched_of_silent (S : SignatureScheme) (hf : r.Filed) (operation : Operation)
    (h : (r.entry S operation).notes ends = []) : Untouched ends r (r.perform S operation).2 := by
  have hstep := pair_step S hf ends operation
  rw [h] at hstep
  cases hstep with
  | untouched same => exact same

theorem silent_closeAll (hf : r.Filed) (now : Height) (hnot : ends ∉ keys) :
    ((r.closeAll now keys).1.filter (·.ends = ends)).map Note.closed = [] := by
  rw [(closeAll_of_notMem hf now hnot).2]
  rfl

end

section
variable {supply : Nat} {r : Registry BalanceSheet}

theorem free_closeAll (hfit : supply < 2 ^ 128) (now : Height) (keys : List Ends)
    (h : Balanced supply r) (a : Account) :
    ((r.closeAll now keys).2.ledger.free a).val
      = (r.ledger.free a).val + refundedTo a (r.closeAll now keys).1 := by
  induction keys generalizing r with
  | nil => rfl
  | cons ends rest ih =>
    rw [closeAll_cons]
    cases hc : r.channels.get? ends with
    | none =>
      rw [close_of_none hc]
      exact ih h
    | some c =>
      have hrest := ih (balanced_close hfit h hc now)
      obtain ⟨hclosing, hledger, -⟩ := close_of_get? hc now
      have hsender : c.sender = ends.sender := congrArg Ends.sender (h.filed ends c hc)
      have hown := free_add_balanceAt_le h.filed ends
      rw [balanceAt_of_get? hc, ← hsender, h.worth] at hown
      have hcredit := r.ledger.val_free_credit c.sender a c.balance (by omega)
      have hled : (r.close ends now).2.ledger = r.ledger.credit c.sender c.balance := hledger
      dsimp only
      rw [hrest, hclosing, Option.toList_some, refundedTo_append, refundedTo_closingOf, hled,
        hcredit, if_congr (eq_comm (a := a)) rfl rfl]
      omega

end

/-! ## Frozen and freed -/

/-- an expired channel with its mark as they were; nothing can be added to it, and no voucher is
redeemed from it, be it signed as it may -/
structure Frozen (S : SignatureScheme) (ends : Ends) (c : Channel) (mark : SessionId)
    (r : Registry BalanceSheet) : Prop where
  channel : r.channels.get? ends = some c
  due : c.isExpired r.height = true
  lastSession : r.lastSession ends = mark
  addBalance : ∀ amount,
    r.addBalance ends.sender ends.receiver amount = (.error .expired, r)
  claim : ∀ sessionId amount signature,
    r.claim S ends.sender ends.receiver sessionId amount signature = (.error .expired, r)

/-- the ways to end the expired channel `c`, each with its answer, with what is closed and with the
channel that then stands in its place -/
inductive Ending (ends : Ends) (c : Channel) (now : Height) :
    Operation → Answer → List Closing → Option Channel → Prop
  | closed (caller : Account) (party : caller = ends.sender ∨ caller = ends.receiver) :
    Ending ends c now (.closeChannel caller ends.sender ends.receiver)
      (.closed [closingOf c now]) [closingOf c now] none
  | closedExpired (caller : Account) (closings : List Closing)
      (party : caller = ends.sender ∨ caller = ends.receiver) :
    Ending ends c now (.closeExpired caller) (.closed closings) closings none
  | swept (closings : List Closing) : Ending ends c now .sweep (.closed closings) closings none
  | reopened (amount : Amount) (duration : Height) (channel : Channel)
      (balance : channel.balance = amount) :
    Ending ends c now (.openChannel ends.sender ends.receiver amount duration) (.opened channel)
      [closingOf c now] (some channel)

def lockedIn (anew : Option Channel) : Nat :=
  anew.elim 0 fun d => d.balance.val

/-- the expired channel `c` has been closed, perhaps with others: each is reported once and as it
stood, everybody got back what they had in those channels, and its sender has paid for the channel
that stands in its place -/
structure Freed (ends : Ends) (c : Channel) (r : Registry BalanceSheet) (closings : List Closing)
    (anew : Option Channel) (r' : Registry BalanceSheet) : Prop where
  reported : closingOf c r.height ∈ closings
  once : (closings.map Closing.ends).Nodup
  stood : ∀ x ∈ closings, ∃ d, r.channels.get? x.ends = some d ∧ x = closingOf d r.height
  channels : ∀ e, r'.channels.get? e
    = if e = ends then anew
      else if e ∈ closings.map Closing.ends then none else r.channels.get? e
  free : ∀ a, (r'.ledger.free a).val + (if a = ends.sender then lockedIn anew else 0)
    = (r.ledger.free a).val + refundedTo a closings

section
variable {S : SignatureScheme} {ends : Ends} {c : Channel} {mark : SessionId} {supply : Nat}
  {r r' : Registry BalanceSheet}

theorem frozen_of_channel (S : SignatureScheme) (hc : r.channels.get? ends = some c)
    (hdue : c.isExpired r.height = true) : Frozen S ends c (r.lastSession ends) r where
  channel := hc
  due := hdue
  lastSession := rfl
  addBalance amount := by simp only [Registry.addBalance, hc, hdue, if_true]
  claim sessionId amount signature := by simp only [Registry.claim, hc, hdue, if_true]

theorem Frozen.ne_of_live (h : Frozen S ends c mark r) {e : Ends} {d : Channel}
    (hd : r.channels.get? e = some d) (hlive : d.isExpired r.height = false) : e ≠ ends := by
  rintro rfl
  obtain rfl : d = c := Option.some.inj (hd.symm.trans h.channel)
  exact absurd hlive (h.due ▸ Bool.noConfusion)

theorem Frozen.of_untouched (h : Frozen S ends c mark r) (hsame : Untouched ends r r')
    (hheight : r.height ≤ r'.height) : Frozen S ends c mark r' := by
  have hdue : c.isExpired r'.height = true := by
    have hold := (c.isExpired_iff r.height).mp h.due
    exact (c.isExpired_iff r'.height).mpr (Nat.le_trans hold hheight)
  have hfrozen := frozen_of_channel S (hsame.channel.trans h.channel) hdue
  rw [hsame.lastSession, h.lastSession] at hfrozen
  exact hfrozen

theorem freed_closeAll (hfit : supply < 2 ^ 128) (hb : Balanced supply r)
    (hc : r.channels.get? ends = some c) {keys : List Ends} (hnodup : keys.Nodup)
    (hmem : ends ∈ keys) :
    Freed ends c r (r.closeAll r.height keys).1 none (r.closeAll r.height keys).2 where
  reported := closingOf_mem_closeAll hb.filed r.height hc hmem
  once := hnodup.sublist (ends_closeAll_sublist hb.filed r.height keys)
  stood x hx := channel_of_mem_closeAll hb.filed r.height hx
  channels e := by
    rw [get?_channels_closeAll]
    by_cases he : e = ends
    · rw [if_pos (he ▸ hmem), if_pos he]
    · rw [if_neg he]
      by_cases hkey : e ∈ keys
      · rw [if_pos hkey]
        split
        · rfl
        · rename_i hsilent
          cases hd : r.channels.get? e with
          | none => rfl
          | some d =>
            have hin := closingOf_mem_closeAll hb.filed r.height hd hkey
            exact absurd (List.mem_map.mpr ⟨_, hin, hb.filed e d hd⟩) hsilent
      · have hsilent : e ∉ (r.closeAll r.height keys).1.map Closing.ends := fun hin =>
          hkey ((ends_closeAll_sublist hb.filed r.height keys).subset hin)
        rw [if_neg hkey, if_neg hsilent]
  free a := by
    rw [free_closeAll hfit r.height keys hb a]
    unfold lockedIn
    split <;> rfl

theorem freed_opened (hfit : supply < 2 ^ 128) (hb : Balanced supply r)
    (hc : r.channels.get? ends = some c) {amount : Amount} {duration : Height} {channel : Channel}
    (h : Opened r ends.sender ends.receiver amount duration channel r') :
    Freed ends c r [closingOf c r.height] (some channel) r' where
  reported := List.mem_singleton_self _
  once := List.nodup_singleton _
  stood x hx := by
    obtain rfl := List.mem_singleton.mp hx
    rw [ends_closingOf, hb.filed ends c hc]
    exact ⟨c, hc, rfl⟩
  channels e := by
    rw [h.channels, Table.get?_insert, List.map_singleton, ends_closingOf, hb.filed ends c hc]
    by_cases he : e = ends
    · rw [if_pos he, if_pos he]
    · rw [if_neg he, if_neg he, if_neg (fun hin => he (List.mem_singleton.mp hin))]
  free a := by
    have hsender : c.sender = ends.sender := congrArg Ends.sender (hb.filed ends c hc)
    have ha := (h.settles hb.filed (hb.worth ▸ hfit)).2 a
    rw [balanceAt_of_get? hc] at ha
    rw [refundedTo_closingOf, hsender, if_congr (eq_comm (a := ends.sender)) rfl rfl, ← ha,
      ← h.balance]
    rfl

/-- an operation leaves a frozen channel frozen, or it is one of the four that end it and gives back
what was in it -/
theorem frozen_step (hfit : supply < 2 ^ 128) (hb : Balanced supply r)
    (h : Frozen S ends c mark r) (operation : Operation) :
    Frozen S ends c mark (r.perform S operation).2 ∨
    ∃ closings anew,
      Ending ends c r.height operation (r.perform S operation).1 closings anew ∧
      Freed ends c r closings anew (r.perform S operation).2 := by
  have hkept : (r.entry S operation).notes ends = [] →
      Frozen S ends c mark (r.perform S operation).2 := fun hsilent =>
    h.of_untouched (untouched_of_silent S hb.filed operation hsilent)
      (height_le_perform S r operation)
  have hcends : c.ends = ends := hb.filed ends c h.channel
  unfold entry Entry.notes at hkept
  obtain ⟨answer, r', hp, hout⟩ := exists_outcome S r operation
  rw [hp] at hkept ⊢
  dsimp only at hkept ⊢
  cases hout with
  | refused operation refusal => exact .inl (hkept (notesOf_refused r ends operation refusal))
  | refusedDebit operation refusal account x ledger hd =>
    exact .inl (hkept (notesOf_refused r ends operation refusal))
  | opened sender receiver amount duration channel r' ho =>
    by_cases he : (⟨sender, receiver⟩ : Ends) = ends
    · subst he
      exact .inr ⟨_, _, .reopened amount duration channel ho.balance,
        freed_opened hfit hb h.channel ho⟩
    · exact .inl (hkept (if_neg he))
  | funded sender receiver amount d channel r' hd =>
    exact .inl (hkept (if_neg (h.ne_of_live hd.found hd.live)))
  | redeemed sender receiver sessionId amount signature d receipt r' hd =>
    exact .inl (hkept (if_neg (h.ne_of_live hd.found hd.live)))
  | closed caller sender receiver party =>
    by_cases he : (⟨sender, receiver⟩ : Ends) = ends
    · subst he
      have hone : (r.closeAll r.height [⟨sender, receiver⟩]).1 = [closingOf c r.height] := by
        rw [closeAll_cons, (close_of_get? h.channel r.height).1]
        rfl
      have hfreed := freed_closeAll hfit hb h.channel (List.nodup_singleton _)
        (List.mem_singleton_self _)
      rw [hone] at hfreed ⊢
      exact .inr ⟨_, _, .closed caller party, hfreed⟩
    · exact .inl (hkept (silent_closeAll hb.filed r.height fun hin =>
        he (List.mem_singleton.mp hin).symm))
  | closedExpired caller =>
    by_cases hparty : c.hasParty caller = true
    · have hends : caller = ends.sender ∨ caller = ends.receiver := by
        rw [← hcends]
        exact (c.hasParty_iff caller).mp hparty
      exact .inr ⟨_, _, .closedExpired caller _ hends,
        freed_closeAll hfit hb h.channel (nodup_expiredEnds hb.filed _)
          ((mem_expiredEnds hb.filed _ ends).mpr ⟨c, h.channel, hparty, h.due⟩)⟩
    · refine .inl (hkept (silent_closeAll hb.filed r.height fun hin => ?_))
      obtain ⟨d, hd, hchosen, -⟩ := (mem_expiredEnds hb.filed _ ends).mp hin
      obtain rfl : d = c := Option.some.inj (hd.symm.trans h.channel)
      exact hparty hchosen
  | swept =>
    exact .inr ⟨_, _, .swept _, freed_closeAll hfit hb h.channel (nodup_expiredEnds hb.filed _)
      ((mem_expiredEnds hb.filed _ ends).mpr ⟨c, h.channel, rfl, h.due⟩)⟩
  | tookEvents => exact .inl (hkept rfl)
  | drained => exact .inl (hkept rfl)

end

/-! ## Runs -/

/-- through a run, a channel is frozen from the first state to the last, or up to an operation that
ends it -/
inductive FrozenUntilFreed (S : SignatureScheme) (ends : Ends) (c : Channel) (mark : SessionId) :
    Registry BalanceSheet → List (Move Passage) → Prop
  | still (r : Registry BalanceSheet) (frozen : Frozen S ends c mark r) :
    FrozenUntilFreed S ends c mark r []
  | kept (r : Registry BalanceSheet) (move : Move Passage) (rest : List (Move Passage))
      (frozen : Frozen S ends c mark r)
      (later : FrozenUntilFreed S ends c mark (r.step S BalanceSheet.pass move) rest) :
    FrozenUntilFreed S ends c mark r (move :: rest)
  | freed (r : Registry BalanceSheet) (operation : Operation) (rest : List (Move Passage))
      (closings : List Closing) (anew : Option Channel) (frozen : Frozen S ends c mark r)
      (ending : Ending ends c r.height operation (r.perform S operation).1 closings anew)
      (freed : Freed ends c r closings anew (r.perform S operation).2) :
    FrozenUntilFreed S ends c mark r (.ask operation :: rest)

theorem frozen_run (S : SignatureScheme) {supply : Nat} (hfit : supply < 2 ^ 128)
    (more : List (Move Passage)) {r : Registry BalanceSheet} {ends : Ends} {c : Channel}
    {mark : SessionId} (hb : Balanced supply r) (h : Frozen S ends c mark r) :
    FrozenUntilFreed S ends c mark r more := by
  induction more generalizing r with
  | nil => exact .still r h
  | cons move rest ih =>
    cases move with
    | ask operation =>
      rcases frozen_step hfit hb h operation with hstill | ⟨closings, anew, hending, hfreed⟩
      · exact .kept r _ rest h (ih (balanced_perform S hfit hb operation) hstill)
      · exact .freed r operation rest closings anew h hending hfreed
    | elapse p =>
      have hstill : Frozen S ends c mark { r with ledger := r.ledger.pass p } :=
        h.of_untouched ⟨rfl, rfl, rfl⟩ (BalanceSheet.height_le_pass p r.ledger)
      exact .kept r _ rest h (ih (balanced_pass hb p) hstill)

/-- whatever a registry has been through while blocks passed, and whatever comes after: a channel
that has expired keeps its balance, its nonce and its mark, and refuses what would be added and all
vouchers, until one of its ends closes it, a sweep does, or its sender opens a new one in its place.
Then its balance goes back to its sender; and every account is given back what it had in the channels
closed by that operation, less what the sender locks anew, and nothing else. -/
theorem frozen_until_freed (S : SignatureScheme) (sheet : BalanceSheet)
    (hfit : sheet.totalIssuance < 2 ^ 128) (moves more : List (Move Passage)) (ends : Ends)
    (c : Channel) :
    let r := (ofLedger sheet).after S BalanceSheet.pass moves
    r.channels.get? ends = some c → c.isExpired r.height = true →
    FrozenUntilFreed S ends c (r.lastSession ends) r more := by
  intro r hc hdue
  exact frozen_run S hfit more (balanced_after S sheet hfit moves) (frozen_of_channel S hc hdue)

/-- three channels are due, and the receiver of the first is the sender of the last; adding to the
first and claiming from it are refused, and then a sweep gives the one account seventy and the other
twenty -/
theorem frozen_until_freed_swept :
    let a : Account := .repeated 1
    let b : Account := .repeated 2
    let opening (sender receiver : Account) (amount : Amount) : Move Passage :=
      .ask (.openChannel sender receiver amount ⟨5, by decide⟩)
    let sheet := BalanceSheet.ofList [(a, ⟨100, by decide⟩), (b, ⟨50, by decide⟩)]
    let moves : List (Move Passage) :=
      [opening a b ⟨40, by decide⟩, opening a (.repeated 3) ⟨30, by decide⟩,
        opening b a ⟨20, by decide⟩, .elapse (.advance ⟨5, by decide⟩)]
    let more : List (Move Passage) :=
      [.ask (.addBalance a b ⟨10, by decide⟩), .elapse (.advance ⟨1, by decide⟩),
        .ask (.claim a b Word.one ⟨7, by decide⟩ []), .ask .sweep]
    let r := (ofLedger sheet).after ed25519 BalanceSheet.pass moves
    let r' := r.after ed25519 BalanceSheet.pass more
    let c : Channel := ⟨a, b, ⟨40, by decide⟩, Word.zero, Word.zero, ⟨5, by decide⟩⟩
    sheet.totalIssuance < 2 ^ 128 ∧ r.channels.get? ⟨a, b⟩ = some c ∧
      c.isExpired r.height = true ∧
      FrozenUntilFreed ed25519 ⟨a, b⟩ c (r.lastSession ⟨a, b⟩) r more ∧
      (r.ledger.free a).val = 30 ∧ (r'.ledger.free a).val = 100 ∧
      (r.ledger.free b).val = 30 ∧ (r'.ledger.free b).val = 50 ∧
      r'.channels.get? ⟨a, b⟩ = none := by
  intro a b opening sheet moves more r r' c
  have hrun : sheet.totalIssuance < 2 ^ 128 ∧ r.channels.get? ⟨a, b⟩ = some c ∧
      c.isExpired r.height = true := by decide +kernel
  obtain ⟨hfit, hc, hdue⟩ := hrun
  exact ⟨hfit, hc, hdue, frozen_until_freed ed25519 sheet hfit moves more ⟨a, b⟩ c hc hdue,
    by decide +kernel⟩

end PayChannel.Registry
