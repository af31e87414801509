import Mathlib
import PayChannel.Proofs.Registry.Filing

/-!
# What a journal tells about one pair

The entries of a journal are about many pairs.  What they tell about one pair is a list of notes:
a channel was opened, funded, claimed from or closed.  An operation makes at most one note about a
pair, and if it makes none it has left the pair alone.

* `Entry.notes`    what an entry tells about a pair;
* `PairStep`, `pair_step`    what can happen to a pair in one operation, note by note.
-/

set_option linter.unusedSectionVars false

namespace PayChannel

/-- what is told about a pair; a payment comes with the nonce its channel had -/
inductive Note where
  | opened (amount : Amount) (channel : Channel)
  | funded (amount : Amount)
  | redeemed (nonce : Nonce) (sessionId : SessionId) (amount : Amount)
  | closed (closing : Closing)

namespace Registry

variable {L : Type} [Ledger L]

/-- the nonce of the open channel of a pair, zero if there is none -/
def openNonce (r : Registry L) (ends : Ends) : Nonce :=
  ((r.channels.get? ends).map Channel.nonce).getD Word.zero

/-- what the answer to an operation tells about a pair -/
def notesOf (r : Registry L) (ends : Ends) : Operation → Answer → List Note
  | .openChannel sender receiver amount _, .opened channel =>
    if (⟨sender, receiver⟩ : Ends) = ends then [.opened amount channel] else []
  | .addBalance sender receiver amount, .funded _ =>
    if (⟨sender, receiver⟩ : Ends) = ends then [.funded amount] else []
  | .claim sender receiver sessionId amount _, .redeemed _ =>
    if (⟨sender, receiver⟩ : Ends) = ends then
      [.redeemed (r.openNonce ends) sessionId amount]
    else []
  | _, .closed closings => (closings.filter (·.ends = ends)).map .closed
  | _, _ => []

def Entry.notes (e : Entry L) (ends : Ends) : List Note :=
  e.before.notesOf ends e.operation e.answer

def history (ends : Ends) (entries : List (Entry L)) : List Note :=
  entries.flatMap fun e => e.notes ends

theorem history_append (ends : Ends) (entries more : List (Entry L)) :
    history ends (entries ++ more) = history ends entries ++ history ends more :=
  List.flatMap_append

theorem history_singleton (ends : Ends) (e : Entry L) : history ends [e] = e.notes ends :=
  List.append_nil _

theorem notesOf_refused (r : Registry L) (ends : Ends) (operation : Operation)
    (refusal : Refusal) : r.notesOf ends operation (.refused refusal) = [] := by
  cases operation <;> rfl

theorem openNonce_of_get? {r : Registry L} {ends : Ends} {c : Channel}
    (h : r.channels.get? ends = some c) : r.openNonce ends = c.nonce := by
  rw [openNonce, h]
  rfl

/-! ## One operation, one pair -/

/-- what happens to a pair in one operation, with the notes about it -/
inductive PairStep (ends : Ends) (r r' : Registry L) : List Note → Prop
  | untouched (same : Untouched ends r r') : PairStep ends r r' []
  | opened (amount : Amount) (channel : Channel) (vacant : r.channels.get? ends = none)
      (nonce : channel.nonce = r.nextNonce ends) (balance : channel.balance = amount)
      (found : r'.channels.get? ends = some channel)
      (nextNonce : r'.nextNonce ends = r.nextNonce ends)
      (lastSession : r'.lastSession ends = r.lastSession ends) :
    PairStep ends r r' [.opened amount channel]
  | reopened (amount : Amount) (c channel : Channel) (stale : r.channels.get? ends = some c)
      (nonce : channel.nonce = c.nonce.satAdd Word.one) (balance : channel.balance = amount)
      (found : r'.channels.get? ends = some channel) (nextNonce : r'.nextNonce ends = channel.nonce)
      (lastSession : r'.lastSession ends = Word.zero)
      (reported : ∃ earlier, r'.events
        = earlier ++ [.closed ends.sender ends.receiver c.balance r.height, .opened channel]) :
    PairStep ends r r' [.opened amount channel]
  | funded (amount : Amount) (c channel : Channel) (before : r.channels.get? ends = some c)
      (nonce : channel.nonce = c.nonce) (balance : c.balance.val + amount.val = channel.balance.val)
      (found : r'.channels.get? ends = some channel)
      (nextNonce : r'.nextNonce ends = r.nextNonce ends)
      (lastSession : r'.lastSession ends = r.lastSession ends) :
    PairStep ends r r' [.funded amount]
  | redeemed (sessionId : SessionId) (amount : Amount) (c channel : Channel)
      (before : r.channels.get? ends = some c) (nonce : channel.nonce = c.nonce)
      (balance : channel.balance.val + amount.val = c.balance.val)
      (found : r'.channels.get? ends = some channel)
      (nextNonce : r'.nextNonce ends = r.nextNonce ends)
      (fresh : r.lastSession ends < sessionId) (lastSession : r'.lastSession ends = sessionId) :
    PairStep ends r r' [.redeemed c.nonce sessionId amount]
  | closed (c : Channel) (now : Height) (moved : MovedOn ends c r r') :
    PairStep ends r r' [.closed (closingOf c now)]

section
variable {r r' : Registry L} {ends : Ends} {sender receiver : Account} {amount : Amount}

theorem logged_logged (events : List Event) (x y : Event) :
    ∃ earlier, logged (logged events x) y = earlier ++ [x, y] := by
  obtain ⟨kept, hkept⟩ : ∃ kept, logged events x = kept ++ [x] := ⟨_, rfl⟩
  rw [hkept, logged]
  split
  · rename_i hfull
    have hpos : 1 ≤ kept.length := by
      have hcap : eventCapacity = 1024 := rfl
      rw [List.length_append, List.length_singleton, hcap] at hfull
      omega
    rw [List.drop_append_of_le_length hpos, List.append_assoc]
    exact ⟨_, rfl⟩
  · rw [List.append_assoc]
    exact ⟨_, rfl⟩

theorem pairStep_opened {duration : Height} {channel : Channel} (hf : r.Filed)
    (h : Opened r sender receiver amount duration channel r') :
    PairStep ends r r'
      (r.notesOf ends (.openChannel sender receiver amount duration) (.opened channel)) := by
  show PairStep ends r r'
    (if (⟨sender, receiver⟩ : Ends) = ends then [.opened amount channel] else [])
  by_cases he : (⟨sender, receiver⟩ : Ends) = ends
  · rw [if_pos he]
    subst he
    have hfound : r'.channels.get? ⟨sender, receiver⟩ = some channel := by
      rw [h.channels, Table.get?_insert_self]
    cases hc : r.channels.get? ⟨sender, receiver⟩ with
    | none =>
      have hnonce := h.nonce
      have hnext := h.nextNonce ⟨sender, receiver⟩
      have hlast := h.lastSession ⟨sender, receiver⟩
      rw [cleared_of_none hc] at hnonce hnext hlast
      exact .opened amount channel hc hnonce h.balance hfound hnext hlast
    | some c =>
      have hret := cleared_of_get? hc
      have hmoved := hret.movedOn hc
      have hsender : c.sender = sender := congrArg Ends.sender (hf _ c hc)
      have hreceiver : c.receiver = receiver := congrArg Ends.receiver (hf _ c hc)
      refine .reopened amount c channel hc (h.nonce.trans hmoved.nextNonce) h.balance hfound
        ((h.nextNonce _).trans h.nonce.symm) ((h.lastSession _).trans hmoved.lastSession) ?_
      rw [h.events, hret.events, hsender, hreceiver]
      exact logged_logged _ _ _
  · rw [if_neg he]
    have hclear : Untouched ends r (r.cleared ⟨sender, receiver⟩) := by
      cases hc : r.channels.get? ⟨sender, receiver⟩ with
      | none =>
        rw [cleared_of_none hc]
        exact .refl ends r
      | some c => exact (cleared_of_get? hc).untouched (Ne.symm he)
    refine .untouched ⟨?_, (h.nextNonce ends).trans hclear.nextNonce,
      (h.lastSession ends).trans hclear.lastSession⟩
    rw [h.channels, Table.get?_insert_of_ne _ _ (Ne.symm he)]

theorem pairStep_funded {c channel : Channel}
    (h : Funded r sender receiver amount c channel r') :
    PairStep ends r r' (r.notesOf ends (.addBalance sender receiver amount) (.funded channel)) := by
  show PairStep ends r r' (if (⟨sender, receiver⟩ : Ends) = ends then [.funded amount] else [])
  by_cases he : (⟨sender, receiver⟩ : Ends) = ends
  · rw [if_pos he]
    subst he
    have hnonce : channel.nonce = c.nonce := by rw [h.channel_eq]
    refine .funded amount c channel h.found hnonce h.balance ?_ (h.nextNonce _) (h.lastSession _)
    rw [h.channels, Table.get?_insert_self]
  · rw [if_neg he]
    refine .untouched ⟨?_, h.nextNonce ends, h.lastSession ends⟩
    rw [h.channels, Table.get?_insert_of_ne _ _ (Ne.symm he)]

theorem pairStep_redeemed {S : SignatureScheme} {sessionId : SessionId} {signature : Bytes}
    {c : Channel} {receipt : Receipt}
    (h : Redeemed S r sender receiver sessionId amount signature c receipt r') :
    PairStep ends r r'
      (r.notesOf ends (.claim sender receiver sessionId amount signature) (.redeemed receipt)) := by
  show PairStep ends r r' (if (⟨sender, receiver⟩ : Ends) = ends then
    [.redeemed (r.openNonce ends) sessionId amount] else [])
  by_cases he : (⟨sender, receiver⟩ : Ends) = ends
  · rw [if_pos he]
    subst he
    have hbalance : (c.balance.satSub amount).val + amount.val = c.balance.val :=
      Nat.sub_add_cancel h.covered
    rw [openNonce_of_get? h.found]
    refine .redeemed sessionId amount c { c with balance := c.balance.satSub amount } h.found rfl
      hbalance ?_ (h.nextNonce _) h.fresh ?_
    · rw [h.channels, Table.get?_insert_self]
    · rw [h.lastSession, if_pos rfl]
  · rw [if_neg he]
    refine .untouched ⟨?_, h.nextNonce ends, ?_⟩
    · rw [h.channels, Table.get?_insert_of_ne _ _ (Ne.symm he)]
    · rw [h.lastSession, if_neg (Ne.symm he)]

theorem pairStep_closeAll (hf : r.Filed) (now : Height) (keys : List Ends) :
    PairStep ends r (r.closeAll now keys).2
      (((r.closeAll now keys).1.filter (·.ends = ends)).map .closed) := by
  rcases closeAll_pair ends now keys hf with ⟨c, hmoved, hone⟩ | ⟨hsame, hnone⟩
  · rw [hone]
    exact .closed c now hmoved
  · rw [hnone]
    exact .untouched hsame

end

/-- every operation does to a pair what its notes tell about it -/
theorem pair_step (S : SignatureScheme) {r : Registry L} (hf : r.Filed) (ends : Ends)
    (operation : Operation) :
    PairStep ends r (r.perform S operation).2 ((r.entry S operation).notes ends) := by
  show PairStep ends r (r.perform S operation).2
    (r.notesOf ends operation (r.perform S operation).1)
  obtain ⟨answer, r', hp, hout⟩ := exists_outcome S r operation
  rw [hp]
  cases hout with
  | refused operation refusal =>
    dsimp only
    rw [notesOf_refused]
    exact .untouched (.refl ends _)
  | refusedDebit operation refusal account x ledger h =>
    dsimp only
    rw [notesOf_refused]
    exact .untouched ⟨rfl, rfl, rfl⟩
  | opened sender receiver amount duration channel r' h => exact pairStep_opened hf h
  | funded sender receiver amount c channel r' h => exact pairStep_funded h
  | redeemed sender receiver sessionId amount signature c receipt r' h => exact pairStep_redeemed h
  | closed caller sender receiver party => exact pairStep_closeAll hf _ _
  | closedExpired caller => exact pairStep_closeAll hf _ _
  | swept => exact pairStep_closeAll hf _ _
  | tookEvents => exact .untouched ⟨rfl, rfl, rfl⟩
  | drained => exact .untouched ⟨rfl, rfl, rfl⟩

end Registry
end PayChannel
