import Mathlib
import PayChannel.Client.Shared
import PayChannel.Proofs.Client.Outcomes

/-!
# Timestamps of calls that overlap

Calls that share a client draw their timestamps from it in any order, and each of them may have to draw
more than once.  Still every update of the last timestamp is a later one, and what a call signs with is
what its update has stored, so that no two messages are the same.

* `submitsAlone_of_idle`    a signed call is such moves, and what it sends is what they sign;
* `Stepped`    what a move can do;
* `Growing`, `DrawnOnce`, `Reached`    what every move keeps;
* `signed_once`    timestamps grow with the updates, and no message is signed twice.
-/

set_option linter.unusedSectionVars false

namespace PayChannel

namespace SharedClient

/-! ## A call that is alone -/

theorem after_append (s : SharedClient) (turns more : List Turn) :
    s.after (turns ++ more) = (s.after turns).after more :=
  List.foldl_append

theorem stages_enter (s : SharedClient) (call : Nat) (stage : Stage) :
    (s.enter call stage).stages call = stage :=
  if_pos rfl

section
variable {s : SharedClient} {call : Nat} {now previous : Millis}

theorem step_look (h : s.stages call = .idle) (now : Millis) :
    s.step (.look call now) = s.enter call (.looked now) := by
  unfold step
  dsimp only
  rw [h]

theorem step_load (h : s.stages call = .looked now) :
    s.step (.load call) = s.enter call (.loaded now s.client.lastTimestamp) := by
  unfold step
  dsimp only
  rw [h]

theorem step_exchange (h : s.stages call = .loaded now s.client.lastTimestamp) :
    let next := s.client.nextTimestamp now
    s.step (.exchange call false) =
      enter { s with
        client := next.2, updates := s.updates ++ [⟨now, s.client.lastTimestamp, next.1⟩] }
        call (.updated now s.client.lastTimestamp) := by
  unfold step
  dsimp only
  rw [h]
  exact if_pos ⟨rfl, rfl⟩

theorem step_sign (h : s.stages call = .updated now previous) (body : Bytes) :
    s.step (.sign call body) =
      enter { s with signed := s.signed ++ [(Client.timestampAfter previous now, body)] }
        call .idle := by
  unfold step
  dsimp only
  rw [h]
  rfl

/-- alone, an attempt signs with the next timestamp of the client -/
theorem after_attempt (h : s.stages call = .idle) (now : Millis) (body : Bytes) :
    let next := s.client.nextTimestamp now
    let s' := s.after (attempt call now body)
    s'.client = next.2 ∧ s'.stages call = .idle ∧ s'.signed = s.signed ++ [(next.1, body)] := by
  rw [attempt, after, List.foldl_cons, step_look h, List.foldl_cons, step_load (stages_enter ..),
    List.foldl_cons, step_exchange (stages_enter ..), List.foldl_cons, step_sign (stages_enter ..)]
  exact ⟨rfl, stages_enter .., rfl⟩

end
end SharedClient

namespace Script

/-- the moves of the first `n` attempts of a signed call that is alone -/
def turns (w : Script) (call : Nat) (body : Bytes) (n : Nat) : List Turn :=
  (List.range n).flatMap fun k => SharedClient.attempt call (w.reading (k + 1)) body

theorem turns_succ (w : Script) (call : Nat) (body : Bytes) (n : Nat) :
    w.turns call body (n + 1)
      = w.turns call body n ++ SharedClient.attempt call (w.reading (n + 1)) body := by
  rw [turns, List.range_succ, List.flatMap_append, List.flatMap_singleton]
  rfl

theorem after_turns (w : Script) (s : SharedClient) {call : Nat} (h : s.stages call = .idle)
    (body : Bytes) (n : Nat) :
    let s' := s.after (w.turns call body n)
    s'.client = w.stamped s.client n ∧ s'.stages call = .idle ∧
      s'.signed = s.signed ++ (List.range n).map fun k => (w.stamp s.client (k + 1), body) := by
  induction n with
  | zero => exact ⟨rfl, h, (List.append_nil _).symm⟩
  | succ n ih =>
    obtain ⟨hclient, hidle, hsigned⟩ := ih
    obtain ⟨hclient', hidle', hsigned'⟩ :=
      SharedClient.after_attempt hidle (w.reading (n + 1)) body
    rw [turns_succ, SharedClient.after_append]
    dsimp only
    rw [hclient', hsigned', hclient, hsigned, List.range_succ, List.map_append, List.append_assoc]
    exact ⟨rfl, hidle', rfl⟩

end Script

namespace SharedClient

/-- a signed call that nothing comes between is moves of its attempts, whatever becomes of them: they
leave the client that it leaves, and what they sign is what it sends -/
def SubmitsAlone (s : SharedClient) (call : Nat) : Prop :=
  ∀ {α : Type} (S : SignatureScheme) (w : Script) (decode : Bytes → Except Json.Flaw α)
    (route : SignedRoute) (body : Bytes),
    let sent := Client.submit S w.transport decode route body s.client []
    ∃ n signed,
      let s' := s.after (w.turns call body n)
      s'.client = sent.2.1 ∧ s'.signed = s.signed ++ signed ∧
        sent.2.2.filter Act.isCall =
          signed.map fun m => .posted route.path (s.client.signedHeaders S m.1 m.2) m.2

theorem submitsAlone_of_idle {s : SharedClient} {call : Nat} (h : s.stages call = .idle) :
    s.SubmitsAlone call := by
  intro α S w decode route body sent
  obtain ⟨i, hi⟩ := w.exists_settles s.client.policy
  obtain ⟨hsettled, hclient⟩ := Script.submit_settled S s.client decode route body hi
  obtain ⟨n, rfl⟩ : ∃ n, i = n + 1 := ⟨i - 1, (Nat.sub_add_cancel hi.1.1).symm⟩
  obtain ⟨hafter, -, hsigned⟩ := w.after_turns s h body (n + 1)
  refine ⟨n + 1, _, hafter.trans hclient.symm, hsigned, ?_⟩
  rw [hsettled.done, Script.filter_upTo (fun _ => rfl), List.map_map]
  rfl

/-! ## What a move can do -/

def drawn (s : SharedClient) : Nat → Option Millis :=
  Stage.timestamp? ∘ s.stages

theorem drawn_enter (s : SharedClient) (call : Nat) (stage : Stage) :
    (s.enter call stage).drawn = Function.update s.drawn call stage.timestamp? := by
  have hstages : (s.enter call stage).stages = Function.update s.stages call stage :=
    funext fun other => (Function.update_apply s.stages call stage other).symm
  rw [drawn, hstages, Function.comp_update]
  rfl

theorem drawn_enter_of_none {s : SharedClient} {call : Nat} {stage : Stage}
    (h : (s.stages call).timestamp? = none) (hstage : stage.timestamp? = none) :
    (s.enter call stage).drawn = s.drawn := by
  rw [drawn_enter, hstage, Function.update_eq_self_iff]
  exact h.symm

/-- what a move can do: it changes nothing but the stage of its call; or it replaces the last
timestamp, and the call has drawn one; or a call signs with the timestamp that it has drawn -/
inductive Stepped (s s' : SharedClient) : Prop where
  | quiet (client : s'.client = s.client) (updates : s'.updates = s.updates)
      (signed : s'.signed = s.signed) (drawn : s'.drawn = s.drawn)
  | updated (call : Nat) (u : Update) (previous : u.previous = s.client.lastTimestamp)
      (stored : u.stored = u.returned) (client : s'.client.lastTimestamp = u.stored)
      (updates : s'.updates = s.updates ++ [u]) (signed : s'.signed = s.signed)
      (drawn : s'.drawn = Function.update s.drawn call (some u.returned))
  | signed (call : Nat) (timestamp : Millis) (body : Bytes) (found : s.drawn call = some timestamp)
      (client : s'.client = s.client) (updates : s'.updates = s.updates)
      (signed : s'.signed = s.signed ++ [(timestamp, body)])
      (drawn : s'.drawn = Function.update s.drawn call none)

theorem stepped_enter {s : SharedClient} {call : Nat} {stage : Stage}
    (h : (s.stages call).timestamp? = none) (hstage : stage.timestamp? = none) :
    Stepped s (s.enter call stage) :=
  .quiet rfl rfl rfl (drawn_enter_of_none h hstage)

theorem stepped (s : SharedClient) (turn : Turn) : Stepped s (s.step turn) := by
  have hnothing : Stepped s s := .quiet rfl rfl rfl rfl
  cases turn with
  | look call now =>
    unfold step
    dsimp only
    split
    · rename_i hstage
      exact stepped_enter (congrArg Stage.timestamp? hstage) rfl
    · exact hnothing
  | load call =>
    unfold step
    dsimp only
    split
    · rename_i now hstage
      exact stepped_enter (congrArg Stage.timestamp? hstage) rfl
    · exact hnothing
  | exchange call fails =>
    unfold step
    dsimp only
    split
    · rename_i now last hstage
      split
      · rename_i hfound
        have hstored : (s.client.nextTimestamp now).1 = Client.timestampAfter last now :=
          congrArg (Client.timestampAfter · now) hfound.1
        exact .updated call ⟨now, last, (s.client.nextTimestamp now).1⟩ hfound.1.symm hstored rfl rfl
          rfl (drawn_enter s call _)
      · exact stepped_enter (congrArg Stage.timestamp? hstage) rfl
    · exact hnothing
  | sign call body =>
    unfold step
    dsimp only
    split
    · rename_i now previous hstage
      exact .signed call _ body (congrArg Stage.timestamp? hstage) rfl rfl rfl (drawn_enter s call _)
    · exact hnothing

theorem updates_subset {s s' : SharedClient} (h : Stepped s s') : s.updates ⊆ s'.updates := by
  cases h with
  | quiet _ updates => rw [updates]; exact List.Subset.refl _
  | updated _ _ _ _ _ updates => rw [updates]; exact List.subset_append_left _ _
  | signed _ _ _ _ _ updates => rw [updates]; exact List.Subset.refl _

end SharedClient

/-! ## Timestamps -/

theorem Update.val_returned (u : Update) :
    u.returned.val = max u.now.val (min (u.previous.val + 1) (2 ^ 64 - 1)) :=
  Client.val_timestampAfter u.previous u.now

theorem Update.now_le_returned (u : Update) : u.now ≤ u.returned := by
  rw [Word.le_iff, u.val_returned]
  exact Nat.le_max_left _ _

theorem Update.returned_le (u : Update) :
    u.returned.val ≤ max u.now.val (u.previous.val + 1) := by
  have hval := u.val_returned
  omega

/-- the largest reading of the clock that went into some updates -/
def Update.peak (updates : List Update) : Nat :=
  updates.foldl (fun m u => max m u.now.val) 0

theorem Update.peak_append (updates : List Update) (u : Update) :
    peak (updates ++ [u]) = max (peak updates) u.now.val := by
  rw [peak, List.foldl_append]
  rfl

namespace SharedClient

section
variable {s s' : SharedClient}

/-- timestamps grow with the updates -/
structure Growing (s : SharedClient) : Prop where
  stored : ∀ u ∈ s.updates, u.stored = u.returned
  latest : ∀ u ∈ s.updates, u.returned ≤ s.client.lastTimestamp
  growing : s.updates.Pairwise fun u v => u.returned < v.returned

/-- each timestamp that has been drawn is kept by one call, or has signed one message -/
structure DrawnOnce (s : SharedClient) : Prop where
  kept : ∀ call t, s.drawn call = some t →
    t ∈ s.updates.map Update.returned ∧ t ∉ s.signed.map Prod.fst
  apart : ∀ call other t, s.drawn call = some t → s.drawn other = some t → call = other
  used : ∀ t ∈ s.signed.map Prod.fst, t ∈ s.updates.map Update.returned
  once : (s.signed.map Prod.fst).Nodup

theorem growing_start (secret : Secret) (policy : RetryPolicy) : Growing (start secret policy) := by
  refine ⟨?_, ?_, .nil⟩
  · rintro u ⟨⟩
  · rintro u ⟨⟩

theorem drawnOnce_start (secret : Secret) (policy : RetryPolicy) :
    DrawnOnce (start secret policy) := by
  refine ⟨?_, ?_, ?_, .nil⟩
  · rintro call t ⟨⟩
  · rintro call other t ⟨⟩
  · rintro t ⟨⟩

theorem Growing.lt_new (h : Growing s) {u : Update} (hprevious : u.previous = s.client.lastTimestamp)
    (hbound : u.returned.val < 2 ^ 64 - 1) : ∀ v ∈ s.updates, v.returned < u.returned := by
  intro v hv
  have hroom : u.previous.val < 2 ^ 64 - 1 := by
    have hval := u.val_returned
    omega
  exact Nat.lt_of_le_of_lt (hprevious ▸ h.latest v hv) (Client.lt_timestampAfter hroom u.now)

theorem Growing.updated (h : Growing s) {u : Update} (hstored : u.stored = u.returned)
    (hnew : ∀ v ∈ s.updates, v.returned < u.returned)
    (hclient : s'.client.lastTimestamp = u.stored) (hupdates : s'.updates = s.updates ++ [u]) :
    Growing s' := by
  constructor
  · rw [hupdates, List.forall_mem_append, List.forall_mem_singleton]
    exact ⟨h.stored, hstored⟩
  · rw [hupdates, hclient, hstored, List.forall_mem_append, List.forall_mem_singleton]
    exact ⟨fun v hv => Nat.le_of_lt (hnew v hv), Nat.le_refl _⟩
  · rw [hupdates, List.pairwise_append]
    refine ⟨h.growing, List.pairwise_singleton _ _, fun v hv => ?_⟩
    rw [List.forall_mem_singleton]
    exact hnew v hv

theorem update_eq_some {f : Nat → Option Millis} {call other : Nat} {v : Option Millis} {t : Millis}
    (h : Function.update f call v other = some t) :
    other = call ∧ v = some t ∨ other ≠ call ∧ f other = some t := by
  by_cases heq : other = call
  · rw [heq, Function.update_self] at h
    exact .inl ⟨heq, h⟩
  · rw [Function.update_of_ne heq] at h
    exact .inr ⟨heq, h⟩

theorem DrawnOnce.updated (h : DrawnOnce s) {call : Nat} {u : Update}
    (hfresh : u.returned ∉ s.updates.map Update.returned)
    (hupdates : s'.updates = s.updates ++ [u]) (hsigned : s'.signed = s.signed)
    (hdrawn : s'.drawn = Function.update s.drawn call (some u.returned)) : DrawnOnce s' := by
  have hreturned : s'.updates.map Update.returned
      = s.updates.map Update.returned ++ [u.returned] := by
    rw [hupdates, List.map_append]
    rfl
  constructor
  case kept =>
    intro other t ht
    rw [hdrawn] at ht
    rw [hreturned, hsigned, List.mem_append, List.mem_singleton]
    rcases update_eq_some ht with ⟨-, ht⟩ | ⟨-, ht⟩
    · obtain rfl := Option.some.inj ht
      exact ⟨.inr rfl, fun hmem => hfresh (h.used _ hmem)⟩
    · exact ⟨.inl (h.kept other t ht).1, (h.kept other t ht).2⟩
  case apart =>
    intro a b t ha hb
    rw [hdrawn] at ha hb
    rcases update_eq_some ha with ⟨ha, hat⟩ | ⟨-, ha⟩
    · rcases update_eq_some hb with ⟨hb, -⟩ | ⟨-, hb⟩
      · exact ha.trans hb.symm
      · exact absurd (Option.some.inj hat ▸ (h.kept b t hb).1) hfresh
    · rcases update_eq_some hb with ⟨-, hbt⟩ | ⟨-, hb⟩
      · exact absurd (Option.some.inj hbt ▸ (h.kept a t ha).1) hfresh
      · exact h.apart a b t ha hb
  case used =>
    intro t ht
    rw [hsigned] at ht
    rw [hreturned]
    exact List.mem_append_left _ (h.used t ht)
  case once =>
    rw [hsigned]
    exact h.once

theorem DrawnOnce.signed (h : DrawnOnce s) {call : Nat} {timestamp : Millis} {body : Bytes}
    (hfound : s.drawn call = some timestamp) (hupdates : s'.updates = s.updates)
    (hsigned : s'.signed = s.signed ++ [(timestamp, body)])
    (hdrawn : s'.drawn = Function.update s.drawn call none) : DrawnOnce s' := by
  obtain ⟨hmem, hfresh⟩ := h.kept call timestamp hfound
  have hother : ∀ other t, s'.drawn other = some t → other ≠ call ∧ s.drawn other = some t := by
    intro other t ht
    rw [hdrawn] at ht
    rcases update_eq_some ht with ⟨-, ht⟩ | ht
    · cases ht
    · exact ht
  have htimes : s'.signed.map Prod.fst = s.signed.map Prod.fst ++ [timestamp] := by
    rw [hsigned, List.map_append]
    rfl
  constructor
  case kept =>
    intro other t ht
    obtain ⟨hne, ht⟩ := hother other t ht
    rw [hupdates, htimes, List.mem_append, List.mem_singleton]
    refine ⟨(h.kept other t ht).1, fun hused => ?_⟩
    rcases hused with hused | rfl
    · exact (h.kept other t ht).2 hused
    · exact hne (h.apart other call t ht hfound)
  case apart => exact fun a b t ha hb => h.apart a b t (hother a t ha).2 (hother b t hb).2
  case used =>
    rw [hupdates, htimes, List.forall_mem_append, List.forall_mem_singleton]
    exact ⟨h.used, hmem⟩
  case once =>
    rw [htimes, ← List.concat_eq_append]
    exact List.Nodup.concat hfresh h.once

/-- every move keeps both, as long as the timestamps do not reach the largest number -/
theorem drawn_stepped (hgrowing : Growing s) (hdrawn : DrawnOnce s) (hs : Stepped s s')
    (hbound : ∀ u ∈ s'.updates, u.returned.val < 2 ^ 64 - 1) : Growing s' ∧ DrawnOnce s' := by
  cases hs with
  | quiet client updates signed drawn =>
    exact ⟨⟨updates ▸ hgrowing.stored, updates ▸ client ▸ hgrowing.latest,
        updates ▸ hgrowing.growing⟩,
      ⟨updates ▸ signed ▸ drawn ▸ hdrawn.kept, drawn ▸ hdrawn.apart,
        updates ▸ signed ▸ hdrawn.used, signed ▸ hdrawn.once⟩⟩
  | updated call u previous stored client updates signed drawn =>
    have hnew : ∀ v ∈ s.updates, v.returned < u.returned := by
      refine hgrowing.lt_new previous (hbound u ?_)
      rw [updates]
      exact List.mem_append_right _ (List.mem_singleton_self u)
    have hfresh : u.returned ∉ s.updates.map Update.returned := by
      intro hmem
      obtain ⟨v, hv, hsame⟩ := List.mem_map.mp hmem
      exact Nat.ne_of_lt (hnew v hv) (congrArg Word.val hsame)
    exact ⟨hgrowing.updated stored hnew client updates, hdrawn.updated hfresh updates signed drawn⟩
  | signed call timestamp body found client updates signed drawn =>
    exact ⟨⟨updates ▸ hgrowing.stored, updates ▸ client ▸ hgrowing.latest,
      updates ▸ hgrowing.growing⟩, hdrawn.signed found updates signed drawn⟩

theorem drawn_after (secret : Secret) (policy : RetryPolicy) (turns : List Turn)
    (hbound : ∀ u ∈ ((start secret policy).after turns).updates, u.returned.val < 2 ^ 64 - 1) :
    Growing ((start secret policy).after turns) ∧ DrawnOnce ((start secret policy).after turns) := by
  -- from the end, for the bound at the end is one at every point before
  induction turns using List.reverseRecOn with
  | nil => exact ⟨growing_start secret policy, drawnOnce_start secret policy⟩
  | append_singleton turns turn ih =>
    rw [after_append] at hbound ⊢
    have hstep := ((start secret policy).after turns).stepped turn
    obtain ⟨hgrowing, hdrawn⟩ := ih fun u hu => hbound u (updates_subset hstep hu)
    exact drawn_stepped hgrowing hdrawn hstep hbound

/-- timestamps run ahead of the clock by one for each update at most -/
structure Reached (s : SharedClient) : Prop where
  latest : s.client.lastTimestamp.val ≤ Update.peak s.updates + s.updates.length
  each : ∀ n u, s.updates[n]? = some u →
    u.returned.val ≤ Update.peak (s.updates.take (n + 1)) + (n + 1)

theorem Reached.stepped (h : Reached s) (hs : Stepped s s') : Reached s' := by
  cases hs with
  | quiet client updates => exact ⟨updates ▸ client ▸ h.latest, updates ▸ h.each⟩
  | signed _ _ _ _ client updates => exact ⟨updates ▸ client ▸ h.latest, updates ▸ h.each⟩
  | updated call u previous stored client updates =>
    have hnew : u.returned.val ≤ Update.peak (s.updates ++ [u]) + (s.updates.length + 1) := by
      have hle := u.returned_le
      have hlatest := h.latest
      rw [Update.peak_append]
      rw [previous] at hle
      omega
    constructor
    · rw [client, stored, updates, List.length_append]
      exact hnew
    · intro n v hv
      rw [updates] at hv ⊢
      rcases Nat.lt_or_ge n s.updates.length with hlt | hge
      · rw [List.getElem?_append_left hlt] at hv
        rw [List.take_append_of_le_length hlt]
        exact h.each n v hv
      · obtain ⟨hlast, rfl⟩ : n = s.updates.length ∧ v = u := by
          rw [List.getElem?_append_right hge, List.getElem?_singleton] at hv
          split at hv
          · exact ⟨by omega, (Option.some.inj hv).symm⟩
          · cases hv
        rw [hlast, List.take_of_length_le (by rw [List.length_append]; exact Nat.le_refl _)]
        exact hnew

theorem reached_after (secret : Secret) (policy : RetryPolicy) (turns : List Turn) :
    Reached ((start secret policy).after turns) := by
  induction turns using List.reverseRecOn with
  | nil =>
    refine ⟨Nat.le_refl 0, ?_⟩
    rintro n u ⟨⟩
  | append_singleton turns turn ih =>
    rw [after_append]
    exact ih.stepped (stepped _ turn)

end

/-- whatever the clock shows and in whatever order the moves of overlapping calls come: a call that is
alone is such moves; and as long as no timestamp reaches the largest number, timestamps grow with the
updates that draw them; each is what its update has stored, no earlier than its reading of the clock, and
ahead of all readings so far by no more than there have been updates; and messages are signed with these
timestamps, and all differ -/
theorem signed_once (secret : Secret) (policy : RetryPolicy) (turns : List Turn) :
    let s := (start secret policy).after turns
    (∀ call, s.stages call = .idle → s.SubmitsAlone call) ∧
    ((∀ u ∈ s.updates, u.returned.val < 2 ^ 64 - 1) →
      s.updates.Pairwise (fun u v => u.returned < v.returned) ∧
      (∀ u ∈ s.updates, u.returned = u.stored ∧ u.now ≤ u.returned) ∧
      (∀ n u, s.updates[n]? = some u →
        u.returned.val ≤ Update.peak (s.updates.take (n + 1)) + (n + 1)) ∧
      (∀ m ∈ s.signed, ∃ u ∈ s.updates, m.1 = u.returned) ∧ s.messages.Nodup) := by
  intro s
  refine ⟨fun call hidle => submitsAlone_of_idle hidle, fun hbound => ?_⟩
  obtain ⟨hgrowing, hdrawn⟩ := drawn_after secret policy turns hbound
  refine ⟨hgrowing.growing, fun u hu => ⟨(hgrowing.stored u hu).symm, u.now_le_returned⟩,
    (reached_after secret policy turns).each, fun m hm => ?_, ?_⟩
  · obtain ⟨u, hu, hsame⟩ := List.mem_map.mp (hdrawn.used m.1 (List.mem_map_of_mem hm))
    exact ⟨u, hu, hsame.symm⟩
  · have hdistinct : s.signed.Pairwise fun m m' => m.1 ≠ m'.1 := List.pairwise_map.mp hdrawn.once
    refine List.pairwise_map.mpr (hdistinct.imp fun hne hsame => hne ?_)
    exact (requestMessage_inj hsame).1

/-- the clock goes back between two calls, and the second one has to take a second go; after that either
call is free again -/
theorem signed_once_contended :
    let secret : Secret := ⟨List.replicate 32 1, List.length_replicate⟩
    let turns : List Turn := [.look 0 ⟨7, by decide⟩, .look 1 ⟨3, by decide⟩, .load 0, .load 1,
      .exchange 1 false, .exchange 0 false, .exchange 0 false, .sign 0 [0], .sign 1 [0]]
    let s := (start secret .none).after turns
    s.updates.map Update.returned = [⟨3, by decide⟩, ⟨7, by decide⟩] ∧
      s.messages.length = 2 ∧ s.messages.Nodup ∧ s.SubmitsAlone 0 := by
  intro secret turns s
  have hupdates : s.updates.map Update.returned = [⟨3, by decide⟩, ⟨7, by decide⟩] := by rfl
  have hbound : ∀ u ∈ s.updates, u.returned.val < 2 ^ 64 - 1 := by
    have hall : ∀ t ∈ s.updates.map Update.returned, t.val < 2 ^ 64 - 1 := by
      rw [hupdates]
      decide
    exact fun u hu => hall _ (List.mem_map_of_mem hu)
  obtain ⟨halone, hsigned⟩ := signed_once secret .none turns
  exact ⟨hupdates, rfl, (hsigned hbound).2.2.2.2, halone 0 rfl⟩

end SharedClient
end PayChannel
