import Mathlib
import PayChannel.Proofs.Registry.Run

/-!
# Channels and their pairs

Every channel is found under its own ends.  So closing what a list of pairs has open reports on
each of them at most once, and leaves the other pairs as they were.

* `Filed`, `filed_perform`    no operation misfiles a channel;
* `closeAll_pair`    what closing many channels does to one pair, and what it reports about it;
* `closeAll_of_mem`, `closeAll_of_notMem`    a pair on the list is closed, and any other left alone;
* `mem_expiredEnds`    the pairs whose channels are due.
-/

set_option linter.unusedSectionVars false

namespace PayChannel

def Closing.ends (x : Closing) : Ends :=
  ⟨x.sender, x.receiver⟩

namespace Registry

variable {L : Type} [Ledger L]

def Filed (r : Registry L) : Prop :=
  ∀ ends c, r.channels.get? ends = some c → c.ends = ends

theorem filed_ofLedger (ledger : L) : (ofLedger ledger).Filed :=
  fun _ _ h => nomatch h

theorem filed_insert {r r' : Registry L} {ends : Ends} {c : Channel} (hf : r.Filed)
    (hc : c.ends = ends) (h : r'.channels = r.channels.insert ends c) : r'.Filed := by
  intro e c' h'
  rw [h, Table.get?_insert] at h'
  by_cases he : e = ends
  · rw [if_pos he] at h'
    cases h'
    rw [hc, he]
  · rw [if_neg he] at h'
    exact hf e c' h'

theorem get?_channels_close (r : Registry L) (ends other : Ends) (now : Height) :
    (r.close ends now).2.channels.get? other
      = if other = ends then none else r.channels.get? other := by
  cases hc : r.channels.get? ends with
  | none =>
    rw [close_of_none hc]
    split
    · rename_i he
      rw [he, hc]
    · rfl
  | some c =>
    obtain ⟨-, -, hret⟩ := close_of_get? hc now
    rw [hret.channels]
    exact Table.get?_erase _ _ _

theorem filed_close {r : Registry L} (hf : r.Filed) (ends : Ends) (now : Height) :
    (r.close ends now).2.Filed := by
  intro e c' h'
  rw [get?_channels_close] at h'
  by_cases he : e = ends
  · rw [if_pos he] at h'
    cases h'
  · rw [if_neg he] at h'
    exact hf e c' h'

theorem filed_closeAll {r : Registry L} (hf : r.Filed) (now : Height) (keys : List Ends) :
    (r.closeAll now keys).2.Filed :=
  closeAll_keeps (P := Filed) (fun _ ends _ hq _ => filed_close hq ends now) keys hf

theorem filed_perform (S : SignatureScheme) {r : Registry L} (hf : r.Filed)
    (operation : Operation) : (r.perform S operation).2.Filed := by
  obtain ⟨answer, r', hp, hout⟩ := exists_outcome S r operation
  rw [hp]
  cases hout with
  | refused operation refusal => exact hf
  | refusedDebit operation refusal account x ledger h => exact hf
  | opened sender receiver amount duration channel r' h => exact filed_insert hf h.ends h.channels
  | funded sender receiver amount c channel r' h =>
    have hends : channel.ends = ⟨sender, receiver⟩ := by
      rw [h.channel_eq]
      exact hf _ c h.found
    exact filed_insert hf hends h.channels
  | redeemed sender receiver sessionId amount signature c receipt r' h =>
    have hends : ({ c with balance := c.balance.satSub amount } : Channel).ends
        = ⟨sender, receiver⟩ := hf _ c h.found
    exact filed_insert hf hends h.channels
  | closed caller sender receiver party => exact filed_closeAll hf _ _
  | closedExpired caller => exact filed_closeAll hf _ _
  | swept => exact filed_closeAll hf _ _
  | tookEvents => exact hf
  | drained => exact hf

theorem filed_run {β : Type} (S : SignatureScheme) (change : β → L → L) (ledger : L)
    (moves : List (Move β)) : ((ofLedger ledger).after S change moves).Filed :=
  run_induction S change (P := fun _ r => r.Filed) (filed_ofLedger ledger)
    (fun _ _ operation hf => filed_perform S hf operation) (fun _ _ _ hf => hf) moves

/-! ## One pair -/

/-- a pair has the same channel, nonce and session as before -/
structure Untouched (ends : Ends) (r r' : Registry L) : Prop where
  channel : r'.channels.get? ends = r.channels.get? ends
  nextNonce : r'.nextNonce ends = r.nextNonce ends
  lastSession : r'.lastSession ends = r.lastSession ends

/-- the channel `c` of a pair is gone, and the pair has moved on to the next generation -/
structure MovedOn (ends : Ends) (c : Channel) (r r' : Registry L) : Prop where
  found : r.channels.get? ends = some c
  channel : r'.channels.get? ends = none
  nextNonce : r'.nextNonce ends = c.nonce.satAdd Word.one
  lastSession : r'.lastSession ends = Word.zero

theorem Untouched.refl (ends : Ends) (r : Registry L) : Untouched ends r r :=
  ⟨rfl, rfl, rfl⟩

section
variable {ends : Ends} {c : Channel} {q r r' : Registry L}

theorem Untouched.trans (h : Untouched ends r q) (h' : Untouched ends q r') :
    Untouched ends r r' :=
  ⟨h'.channel.trans h.channel, h'.nextNonce.trans h.nextNonce,
    h'.lastSession.trans h.lastSession⟩

theorem Untouched.movedOn (h : Untouched ends r q) (h' : MovedOn ends c q r') :
    MovedOn ends c r r' :=
  ⟨h.channel.symm.trans h'.found, h'.channel, h'.nextNonce, h'.lastSession⟩

theorem MovedOn.untouched (h : MovedOn ends c r q) (h' : Untouched ends q r') :
    MovedOn ends c r r' :=
  ⟨h.found, h'.channel.trans h.channel, h'.nextNonce.trans h.nextNonce,
    h'.lastSession.trans h.lastSession⟩

theorem Retired.movedOn {now : Height} (h : Retired r ends now c r')
    (hc : r.channels.get? ends = some c) : MovedOn ends c r r' := by
  refine ⟨hc, ?_, ?_, ?_⟩
  · rw [h.channels, Table.get?_erase_self]
  · rw [h.nextNonce, if_pos rfl]
  · rw [h.lastSession, if_pos rfl]

theorem Retired.untouched {now : Height} {other : Ends} (h : Retired r ends now c r')
    (ho : other ≠ ends) : Untouched other r r' := by
  refine ⟨?_, ?_, ?_⟩
  · rw [h.channels, Table.get?_erase_of_ne _ ho]
  · rw [h.nextNonce, if_neg ho]
  · rw [h.lastSession, if_neg ho]

end

theorem ends_closingOf (c : Channel) (now : Height) : (closingOf c now).ends = c.ends := rfl

/-- closing many channels closes the one of a pair and reports on it once, or leaves the pair alone
and does not mention it -/
theorem closeAll_pair (ends : Ends) (now : Height) (keys : List Ends) {r : Registry L}
    (hf : r.Filed) :
    (∃ c, MovedOn ends c r (r.closeAll now keys).2 ∧
      (r.closeAll now keys).1.filter (·.ends = ends) = [closingOf c now]) ∨
    (Untouched ends r (r.closeAll now keys).2 ∧
      (r.closeAll now keys).1.filter (·.ends = ends) = []) := by
  induction keys generalizing r with
  | nil => exact .inr ⟨.refl ends r, rfl⟩
  | cons key rest ih =>
    rw [closeAll_cons]
    cases hc : r.channels.get? key with
    | none =>
      rw [close_of_none hc]
      exact ih hf
    | some c =>
      obtain ⟨hclosing, -, hret⟩ := close_of_get? hc now
      have hends : (closingOf c now).ends = key := hf key c hc
      have hrest := ih (filed_close hf key now)
      rw [hclosing, Option.toList_some, List.singleton_append]
      by_cases hk : key = ends
      · -- the pair has no channel any more, so the rest of the list leaves it alone
        subst hk
        have hmoved := hret.movedOn hc
        rcases hrest with ⟨c', hagain, -⟩ | ⟨hsame, hnone⟩
        · have hfound := hagain.found
          rw [hmoved.channel] at hfound
          cases hfound
        · refine .inl ⟨c, hmoved.untouched hsame, ?_⟩
          rw [List.filter_cons_of_pos (by simpa using hends), hnone]
      · have hsame := hret.untouched (Ne.symm hk)
        rw [List.filter_cons_of_neg (by simpa [hends] using hk)]
        rcases hrest with ⟨c', hmoved, hone⟩ | ⟨hsame', hnone⟩
        · exact .inl ⟨c', hsame.movedOn hmoved, hone⟩
        · exact .inr ⟨hsame.trans hsame', hnone⟩

theorem get?_channels_closeAll (r : Registry L) (now : Height) (keys : List Ends) (ends : Ends) :
    (r.closeAll now keys).2.channels.get? ends
      = if ends ∈ keys then none else r.channels.get? ends := by
  induction keys generalizing r with
  | nil => rfl
  | cons key rest ih =>
    rw [closeAll_cons, ih, get?_channels_close]
    by_cases hrest : ends ∈ rest
    · rw [if_pos hrest, if_pos (List.mem_cons_of_mem _ hrest)]
    · by_cases hkey : ends = key
      · rw [if_neg hrest, if_pos hkey, if_pos (hkey ▸ List.mem_cons_self)]
      · have hnot : ends ∉ key :: rest := fun hmem =>
          (List.mem_cons.mp hmem).elim hkey hrest
        rw [if_neg hrest, if_neg hkey, if_neg hnot]

section
variable {r : Registry L} {ends : Ends} {c : Channel} {keys : List Ends} {now : Height}

theorem closeAll_of_mem (hf : r.Filed) (now : Height) (hc : r.channels.get? ends = some c)
    (hmem : ends ∈ keys) :
    MovedOn ends c r (r.closeAll now keys).2 ∧
      (r.closeAll now keys).1.filter (·.ends = ends) = [closingOf c now] := by
  rcases closeAll_pair ends now keys hf with ⟨d, hmoved, hone⟩ | ⟨hsame, -⟩
  · obtain rfl : d = c := Option.some.inj (hmoved.found.symm.trans hc)
    exact ⟨hmoved, hone⟩
  · have hgone := get?_channels_closeAll r now keys ends
    rw [if_pos hmem, hsame.channel, hc] at hgone
    cases hgone

theorem closeAll_of_notMem (hf : r.Filed) (now : Height) (hnot : ends ∉ keys) :
    Untouched ends r (r.closeAll now keys).2 ∧
      (r.closeAll now keys).1.filter (·.ends = ends) = [] := by
  rcases closeAll_pair ends now keys hf with ⟨d, hmoved, -⟩ | h
  · have hkept := get?_channels_closeAll r now keys ends
    rw [if_neg hnot, hmoved.channel, hmoved.found] at hkept
    cases hkept
  · exact h

theorem mem_closeAll (hf : r.Filed) {x : Closing} (hx : x ∈ (r.closeAll now keys).1) :
    x.ends ∈ keys := by
  by_contra hnot
  have hin : x ∈ (r.closeAll now keys).1.filter (·.ends = x.ends) :=
    List.mem_filter.mpr ⟨hx, decide_eq_true rfl⟩
  rw [(closeAll_of_notMem hf now hnot).2] at hin
  cases hin

theorem mem_expiredEnds (hf : r.Filed) (chosen : Channel → Bool) (ends : Ends) :
    ends ∈ r.expiredEnds chosen ↔
      ∃ c, r.channels.get? ends = some c ∧ chosen c = true ∧ c.isExpired r.height = true := by
  unfold expiredEnds Table.values
  rw [List.mem_map]
  constructor
  · rintro ⟨c, hc, rfl⟩
    obtain ⟨hvalue, htest⟩ := List.mem_filter.mp hc
    obtain ⟨e, he, rfl⟩ := List.mem_map.mp hvalue
    have hfound : r.channels.get? e.1 = some e.2 := (Table.get?_eq_some_iff _ _ _).mpr he
    exact ⟨e.2, hf _ _ hfound ▸ hfound, (Bool.and_eq_true_iff.mp htest)⟩
  · rintro ⟨c, hc, htest⟩
    refine ⟨c, List.mem_filter.mpr ⟨?_, Bool.and_eq_true_iff.mpr htest⟩, hf _ _ hc⟩
    exact List.mem_map.mpr ⟨(ends, c), (Table.get?_eq_some_iff _ _ _).mp hc, rfl⟩

end

end Registry
end PayChannel
