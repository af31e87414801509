import Mathlib
import PayChannel.Service.Replay

/-!
# What the replay cache recalls

The replay cache is asked about one request after the other, each time with the reading of the clock
that the request came with, and these readings need not come in order.  The log of its rulings is the
whole history; the cache itself forgets every stamp that lies before the horizon of a later reading.

* `ReplayCache.Wrote`    a log is what the cache rules, question by question;
* `Remembered`    what a log says that has not been forgotten;
* `get?_seeAll`    that is what the cache holds, in whatever order the readings came;
* `refused_iff`    when a request is refused;
* `refused_iff_of_le`    while readings do not go back, nothing inside the window is forgotten;
* `OnceUnlessOvertaken`    what it takes for a signature to be accepted twice.
-/

namespace PayChannel

structure Sighting where
  signature : Bytes
  timestamp : Millis
  now : Millis
deriving DecidableEq

/-- a sighting, and whether it was accepted -/
structure Ruling extends Sighting where
  accepted : Bool
deriving DecidableEq

namespace ReplayCache

/-! ## Logs -/

section
variable (window : Millis) (c : ReplayCache)

def see (x : Sighting) : ReplayCache :=
  (c.check window x.signature x.timestamp x.now).2

/-- what the cache says when it is asked -/
def ruling (x : Sighting) : Ruling :=
  { x with accepted := (c.check window x.signature x.timestamp x.now).1 }

def rulings : ReplayCache → List Sighting → List Ruling
  | _, [] => []
  | c, x :: rest => c.ruling window x :: rulings (c.see window x) rest

def seeAll (log : List Ruling) : ReplayCache :=
  log.foldl (fun c y => c.see window y.toSighting) c

/-- the rulings of a log are those of the cache -/
def Wrote (log : List Ruling) : Prop :=
  log = rulings window c (log.map Ruling.toSighting)

theorem wrote_nil : c.Wrote window [] := rfl

theorem wrote_cons (y : Ruling) (rest : List Ruling) :
    c.Wrote window (y :: rest) ↔
      y = c.ruling window y.toSighting ∧ (c.see window y.toSighting).Wrote window rest := by
  unfold Wrote
  rw [List.map_cons, rulings, List.cons.injEq]

theorem wrote_append (xs ys : List Ruling) :
    c.Wrote window (xs ++ ys) ↔ c.Wrote window xs ∧ (c.seeAll window xs).Wrote window ys := by
  induction xs generalizing c with
  | nil => exact ⟨fun h => ⟨c.wrote_nil window, h⟩, fun h => h.2⟩
  | cons x xs ih =>
    have hsee : c.seeAll window (x :: xs) = (c.see window x.toSighting).seeAll window xs := rfl
    rw [List.cons_append, wrote_cons, wrote_cons, ih, hsee, and_assoc]

theorem map_rulings (xs : List Sighting) :
    (rulings window c xs).map Ruling.toSighting = xs := by
  induction xs generalizing c with
  | nil => rfl
  | cons x xs ih =>
    rw [rulings, List.map_cons, ih]
    rfl

theorem wrote_rulings (xs : List Sighting) : c.Wrote window (rulings window c xs) := by
  unfold Wrote
  rw [map_rulings]

theorem wrote_toList {y? : Option Ruling}
    (h : ∀ y, y? = some y → y = c.ruling window y.toSighting) : c.Wrote window y?.toList := by
  cases y? with
  | none => exact c.wrote_nil window
  | some y => exact (c.wrote_cons window y []).mpr ⟨h y rfl, rfl⟩

theorem seeAll_concat (log : List Ruling) (y : Ruling) :
    c.seeAll window (log ++ [y]) = (c.seeAll window log).see window y.toSighting :=
  List.foldl_append

end

/-! ## One question -/

section
variable {window : Millis} {c : ReplayCache}

theorem horizon_le_iff (window now stamp : Millis) :
    horizon window now ≤ stamp ↔ now.val ≤ stamp.val + window.val := by
  show now.val - window.val ≤ stamp.val ↔ _
  omega

theorem horizon_mono (window : Millis) {a b : Millis} (h : a ≤ b) :
    horizon window a ≤ horizon window b := by
  have hval : a.val ≤ b.val := h
  show a.val - window.val ≤ b.val - window.val
  omega

theorem horizon_le_of_near {now timestamp : Millis} (h : now.distance timestamp ≤ window.val) :
    horizon window now ≤ timestamp := by
  rw [horizon_le_iff]
  unfold Word.distance at h
  omega

theorem get?_prune_eq_some_iff (c : ReplayCache) (window now : Millis) (signature : Bytes)
    (stamp : Millis) : (c.prune window now).seen.get? signature = some stamp ↔
      c.seen.get? signature = some stamp ∧ horizon window now ≤ stamp := by
  rw [get?_prune, Option.filter_eq_some_iff, decide_eq_true_iff]

theorem accepted_ruling_eq_false_iff (x : Sighting) :
    (c.ruling window x).accepted = false ↔
      ∃ stamp, c.seen.get? x.signature = some stamp ∧ horizon window x.now ≤ stamp := by
  have hseen : (c.ruling window x).accepted = false ↔
      ((c.prune window x.now).seen.get? x.signature).isSome = true := by
    unfold ruling check Table.contains
    dsimp only
    split
    · rename_i h
      exact iff_of_true rfl h
    · rename_i h
      exact iff_of_false Bool.true_eq_false_eq_False h
  rw [hseen, Option.isSome_iff_exists]
  exact exists_congr fun stamp => get?_prune_eq_some_iff c window x.now x.signature stamp

theorem get?_see_eq_some_iff (x : Sighting) (signature : Bytes) (stamp : Millis) :
    (c.see window x).seen.get? signature = some stamp ↔
      ((c.ruling window x).accepted = true ∧ x.signature = signature ∧ x.timestamp = stamp) ∨
      (c.seen.get? signature = some stamp ∧ horizon window x.now ≤ stamp) := by
  rw [← get?_prune_eq_some_iff]
  cases ha : (c.ruling window x).accepted with
  | false =>
    have hsee : c.see window x = c.prune window x.now := get?_check_refused ha
    rw [hsee]
    simp
  | true =>
    have hget := get?_check_accepted (c := c) ha signature
    by_cases hs : signature = x.signature
    · -- what is accepted was not there, so the new stamp is the only one
      have hnone : (c.prune window x.now).seen.get? signature = none := by
        by_contra hsome
        obtain ⟨old, hold⟩ := Option.ne_none_iff_exists'.mp hsome
        rw [hs] at hold
        have hrefused := (accepted_ruling_eq_false_iff x).mpr
          ⟨old, (get?_prune_eq_some_iff c window x.now x.signature old).mp hold⟩
        rw [ha] at hrefused
        cases hrefused
      rw [if_pos hs] at hget
      rw [hnone]
      show (c.check window x.signature x.timestamp x.now).2.seen.get? signature = _ ↔ _
      rw [hget]
      simp [hs]
    · rw [if_neg hs] at hget
      show (c.check window x.signature x.timestamp x.now).2.seen.get? signature = _ ↔ _
      rw [hget]
      simp [Ne.symm hs]

end

/-! ## The whole history -/

section
variable {window : Millis}

/-- a log says that a signature was accepted with a stamp, and no reading since then has moved the
horizon past the stamp -/
def Remembered (window : Millis) (log : List Ruling) (signature : Bytes) (stamp : Millis) : Prop :=
  ∃ earlier x later, log = earlier ++ x :: later ∧ x.accepted = true ∧ x.signature = signature ∧
    x.timestamp = stamp ∧ ∀ y ∈ later, horizon window y.now ≤ stamp

theorem remembered_concat (log : List Ruling) (y : Ruling) (signature : Bytes) (stamp : Millis) :
    Remembered window (log ++ [y]) signature stamp ↔
      (y.accepted = true ∧ y.signature = signature ∧ y.timestamp = stamp) ∨
      (Remembered window log signature stamp ∧ horizon window y.now ≤ stamp) := by
  constructor
  · rintro ⟨earlier, x, later, hlog, haccepted, hsignature, hstamp, hlater⟩
    rcases List.eq_nil_or_concat later with rfl | ⟨init, last, rfl⟩
    · obtain ⟨-, hlast⟩ := List.append_inj' hlog rfl
      cases hlast
      exact .inl ⟨haccepted, hsignature, hstamp⟩
    · rw [List.concat_eq_append, ← List.cons_append, ← List.append_assoc] at hlog
      obtain ⟨hinit, hlast⟩ := List.append_inj' hlog rfl
      cases hlast
      rw [List.concat_eq_append] at hlater
      refine .inr ⟨⟨earlier, x, init, hinit, haccepted, hsignature, hstamp, fun z hz => ?_⟩, ?_⟩
      · exact hlater z (List.mem_append_left _ hz)
      · exact hlater y (List.mem_append_right _ List.mem_cons_self)
  · rintro (⟨haccepted, hsignature, hstamp⟩ |
      ⟨⟨earlier, x, later, rfl, haccepted, hsignature, hstamp, hlater⟩, hy⟩)
    · exact ⟨log, y, [], rfl, haccepted, hsignature, hstamp, fun _ hz => nomatch hz⟩
    · refine ⟨earlier, x, later ++ [y], by simp, haccepted, hsignature, hstamp, fun z hz => ?_⟩
      rcases List.mem_append.mp hz with hz | hz
      · exact hlater z hz
      · rw [List.mem_singleton.mp hz]
        exact hy

theorem get?_seeAll {log : List Ruling} (h : empty.Wrote window log) (signature : Bytes)
    (stamp : Millis) : (empty.seeAll window log).seen.get? signature = some stamp ↔
      Remembered window log signature stamp := by
  -- from the end: the last question meets the cache that the earlier ones have left
  induction log using List.reverseRecOn with
  | nil =>
    refine iff_of_false (fun hget => nomatch hget) ?_
    rintro ⟨earlier, x, later, hlog, -⟩
    cases earlier <;> cases hlog
  | append_singleton log y ih =>
    obtain ⟨hlog, hy⟩ := (empty.wrote_append window log [y]).mp h
    have hrule := ((wrote_cons window _ y []).mp hy).1
    rw [seeAll_concat, get?_see_eq_some_iff, remembered_concat, ih hlog, ← hrule]

/-- a request is refused if its signature was accepted with a stamp that is not before its horizon,
nor before that of anything that was asked since -/
theorem refused_iff {log earlier later : List Ruling} {y : Ruling} (h : empty.Wrote window log)
    (hlog : log = earlier ++ y :: later) :
    y.accepted = false ↔
      ∃ stamp, Remembered window earlier y.signature stamp ∧ horizon window y.now ≤ stamp := by
  rw [hlog] at h
  obtain ⟨hearlier, hy⟩ := (empty.wrote_append window earlier (y :: later)).mp h
  have hrule := ((wrote_cons window _ y later).mp hy).1
  rw [hrule, accepted_ruling_eq_false_iff]
  exact exists_congr fun stamp => and_congr_left fun _ => get?_seeAll hearlier y.signature stamp

/-- if no earlier reading is later, forgetting makes no difference -/
theorem refused_iff_of_le {log earlier later : List Ruling} {y : Ruling}
    (h : empty.Wrote window log) (hlog : log = earlier ++ y :: later)
    (hle : ∀ x ∈ earlier, x.now ≤ y.now) :
    y.accepted = false ↔ ∃ x ∈ earlier, x.accepted = true ∧ x.signature = y.signature ∧
      horizon window y.now ≤ x.timestamp := by
  rw [refused_iff h hlog]
  constructor
  · rintro ⟨stamp, ⟨before, x, after, rfl, haccepted, hsignature, rfl, -⟩, hstamp⟩
    exact ⟨x, List.mem_append_right _ List.mem_cons_self, haccepted, hsignature, hstamp⟩
  · rintro ⟨x, hx, haccepted, hsignature, hstamp⟩
    obtain ⟨before, after, rfl⟩ := List.append_of_mem hx
    refine ⟨x.timestamp, ⟨before, x, after, rfl, haccepted, hsignature, rfl, fun z hz => ?_⟩,
      hstamp⟩
    have hz' := hle z (List.mem_append_right _ (List.mem_cons_of_mem _ hz))
    exact Nat.le_trans (horizon_mono window hz') hstamp

/-- a signature with its timestamp is accepted twice only if a reading more than a window after the
timestamp has come in between -/
theorem overtaken_of_accepted {log before between after : List Ruling} {x y : Ruling}
    (h : empty.Wrote window log) (hlog : log = before ++ x :: (between ++ y :: after))
    (hx : x.accepted = true) (hy : y.accepted = true) (hsignature : x.signature = y.signature)
    (hstamp : x.timestamp = y.timestamp) (hnear : y.now.distance y.timestamp ≤ window.val) :
    ∃ z ∈ between, x.timestamp.val + window.val < z.now.val := by
  by_contra hnone
  have hkept : ∀ z ∈ between, horizon window z.now ≤ x.timestamp := by
    intro z hz
    rw [horizon_le_iff]
    exact Nat.le_of_not_lt fun hlt => hnone ⟨z, hz, hlt⟩
  have hremembered : Remembered window (before ++ x :: between) y.signature x.timestamp :=
    ⟨before, x, between, rfl, hx, hsignature, rfl, hkept⟩
  have hsplit : log = (before ++ x :: between) ++ y :: after := by
    rw [hlog, List.append_assoc, List.cons_append]
  have hrefused := (refused_iff h hsplit).mpr
    ⟨x.timestamp, hremembered, hstamp ▸ horizon_le_of_near hnear⟩
  rw [hy] at hrefused
  cases hrefused

end

/-! ## Accepted once, and twice -/

section
variable {window : Millis}

/-- no signature is accepted twice with the same timestamp -/
def AcceptedOnce (log : List Ruling) : Prop :=
  log.Pairwise fun x y =>
    ¬ (x.accepted = true ∧ y.accepted = true ∧ x.signature = y.signature ∧
      x.timestamp = y.timestamp)

instance (log : List Ruling) : Decidable (AcceptedOnce log) :=
  inferInstanceAs (Decidable (log.Pairwise _))

/-- what a log says of signatures that are accepted twice with the same timestamp -/
structure OnceUnlessOvertaken (window : Millis) (log : List Ruling) : Prop where
  /-- in between the cache was asked about a request whose reading is past the window of the
  timestamp, and so also past the reading of the second -/
  overtaken : ∀ (before between after : List Ruling) (x y : Ruling),
    log = before ++ x :: (between ++ y :: after) → x.accepted = true → y.accepted = true →
    x.signature = y.signature → x.timestamp = y.timestamp →
    ∃ z ∈ between, x.timestamp.val + window.val < z.now.val ∧ y.now < z.now
  /-- there are none, if the cache was asked in the order of the readings -/
  once : log.Pairwise (fun x y => x.now ≤ y.now) → AcceptedOnce log

theorem pairwise_of_split {α : Type} {R : α → α → Prop} {l : List α}
    (h : ∀ (before between after : List α) (x y : α),
      l = before ++ x :: (between ++ y :: after) → R x y) : l.Pairwise R := by
  induction l with
  | nil => exact List.Pairwise.nil
  | cons x rest ih =>
    rw [List.pairwise_cons]
    constructor
    · intro y hy
      obtain ⟨between, after, rfl⟩ := List.append_of_mem hy
      exact h [] between after x y rfl
    · refine ih fun before between after x' y hrest => ?_
      exact h (x :: before) between after x' y (by rw [hrest, List.cons_append])

/-- if the cache is asked only about timestamps inside the window of their own reading, a signature
is accepted once with its timestamp, unless it is overtaken -/
theorem onceUnlessOvertaken_of_near {log : List Ruling} (h : empty.Wrote window log)
    (hnear : ∀ y ∈ log, y.now.distance y.timestamp ≤ window.val) :
    OnceUnlessOvertaken window log := by
  have hovertaken : ∀ (before between after : List Ruling) (x y : Ruling),
      log = before ++ x :: (between ++ y :: after) → x.accepted = true → y.accepted = true →
      x.signature = y.signature → x.timestamp = y.timestamp →
      ∃ z ∈ between, x.timestamp.val + window.val < z.now.val ∧ y.now < z.now := by
    intro before between after x y hlog hx hy hsignature hstamp
    have hy' := hnear y (by rw [hlog]; simp)
    obtain ⟨z, hz, hpast⟩ := overtaken_of_accepted h hlog hx hy hsignature hstamp hy'
    refine ⟨z, hz, hpast, ?_⟩
    show y.now.val < z.now.val
    unfold Word.distance at hy'
    rw [hstamp] at hpast
    omega
  refine ⟨hovertaken, fun horder => ?_⟩
  unfold AcceptedOnce
  apply pairwise_of_split
  rintro before between after x y hlog ⟨hx, hy, hsignature, hstamp⟩
  obtain ⟨z, hz, -, hlt⟩ := hovertaken before between after x y hlog hx hy hsignature hstamp
  rw [hlog] at horder
  have hrest := (List.pairwise_cons.mp (List.pairwise_append.mp horder).2.1).2
  have hle : z.now ≤ y.now := (List.pairwise_append.mp hrest).2.2 z hz y List.mem_cons_self
  exact absurd hlt (Nat.not_lt.mpr hle)

end

end ReplayCache
end PayChannel
