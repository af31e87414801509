import Mathlib
import PayChannel.Proofs.Service.Succession

/-!
# Requests that overlap

The clock is read when a request arrives, and the replay cache is asked when its body is there.  In
between other requests may arrive and be finished, so the readings need not reach the cache in order.
A request that waits for its body can be overtaken by one with a later reading, which makes the cache
forget stamps that are still inside the window of the one that waits.

* `Happening`, `Desk.step`    arrivals and completions in any order;
* `Desk.log`    the rulings of the cache on the way, with `wrote_log` and `near_of_mem_log`;
* `accepted_twice_overlapping`    a funding that is made twice, by a copy that is slow to arrive;
* `once_unless_overtaken`    this is the only way in which a signature is accepted twice.
-/

set_option linter.unusedSectionVars false

namespace PayChannel

open Http

/-- a request whose headers were in order when the clock was read, and whose body is to come -/
structure Waiting where
  now : Millis
  credentials : Credentials
  route : SignedRoute
  request : Request

/-- a service, and the requests that wait for their bodies -/
structure Desk where
  service : Service
  waiting : List Waiting

inductive Happening where
  /-- a request arrives, at a reading of the clock -/
  | arrival (now : Millis) (request : Request)
  /-- the body of a waiting request is there -/
  | completion (position : Nat)
  /-- a waiting request is given up -/
  | departure (position : Nat)
  /-- the registry changes on its own -/
  | meanwhile (change : Registry BalanceSheet → Registry BalanceSheet)

def Happening.reading? : Happening → Option Millis
  | arrival now _ => some now
  | _ => none

namespace Desk

def start (ledger : BalanceSheet) (ttl : Word 64) : Desk :=
  ⟨Service.start ledger ttl, []⟩

section
variable (S : SignatureScheme)

def step (d : Desk) : Happening → Desk
  | .arrival now request =>
    match d.service.arrive now request with
    | .answered _ => d
    | .waiting credentials route =>
      { d with waiting := d.waiting ++ [⟨now, credentials, route, request⟩] }
  | .completion position =>
    match d.waiting[position]? with
    | none => d
    | some w =>
      ⟨(d.service.finish S w.now w.credentials w.route w.request).2, d.waiting.eraseIdx position⟩
  | .departure position => { d with waiting := d.waiting.eraseIdx position }
  | .meanwhile change =>
    { d with service := { d.service with registry := change d.service.registry } }

def after (d : Desk) (happenings : List Happening) : Desk :=
  happenings.foldl (step S) d

def ruling? (d : Desk) : Happening → Option Ruling
  | .completion position =>
    d.waiting[position]?.bind fun w =>
      (Auth.sighting? S w.now w.credentials w.request.body).map
        (d.service.replay.ruling d.service.window)
  | _ => none

/-- what the cache rules on the way -/
def log : Desk → List Happening → List Ruling
  | _, [] => []
  | d, h :: rest => (d.ruling? S h).toList ++ log (d.step S h) rest

def readings (happenings : List Happening) : List Millis :=
  happenings.filterMap Happening.reading?

end

/-! ## The log of a desk -/

section
variable {S : SignatureScheme}

theorem replay_step (d : Desk) (h : Happening) : (d.step S h).service.replay =
    d.service.replay.seeAll d.service.window (d.ruling? S h).toList := by
  cases h with
  | arrival now request =>
    unfold step
    dsimp only
    cases d.service.arrive now request <;> rfl
  | completion position =>
    unfold step ruling?
    dsimp only
    cases d.waiting[position]? with
    | none => rfl
    | some w =>
      rw [Option.bind_some]
      cases hx : Auth.sighting? S w.now w.credentials w.request.body with
      | none => exact (Service.aside_finish hx d.service w.route).replay
      | some x => exact Service.finish_replay hx d.service w.route
  | departure position => rfl
  | meanwhile change => rfl

theorem window_step (d : Desk) (h : Happening) :
    (d.step S h).service.window = d.service.window := by
  cases h with
  | arrival now request =>
    unfold step
    dsimp only
    cases d.service.arrive now request <;> rfl
  | completion position =>
    unfold step
    dsimp only
    cases d.waiting[position]? with
    | none => rfl
    | some w => exact congrArg (Word.satMul · _) (Service.finish_ttl S _ _ _ _ _)
  | departure position => rfl
  | meanwhile change => rfl

theorem toSighting_of_ruling? {d : Desk} {h : Happening} {y : Ruling}
    (hy : d.ruling? S h = some y) :
    y = d.service.replay.ruling d.service.window y.toSighting := by
  cases h with
  | completion position =>
    obtain ⟨w, -, hw⟩ := Option.bind_eq_some_iff.mp hy
    obtain ⟨x, -, rfl⟩ := Option.map_eq_some_iff.mp hw
    rfl
  | arrival | departure | meanwhile => cases hy

theorem wrote_log (d : Desk) (happenings : List Happening) :
    d.service.replay.Wrote d.service.window (d.log S happenings) := by
  induction happenings generalizing d with
  | nil => exact d.service.replay.wrote_nil d.service.window
  | cons h rest ih =>
    have hrest := ih (d.step S h)
    rw [window_step, replay_step] at hrest
    rw [log, ReplayCache.wrote_append]
    exact ⟨ReplayCache.wrote_toList _ _ fun _ hy => toSighting_of_ruling? hy, hrest⟩

/-- the headers of all who wait were in order on their arrival -/
def Orderly (d : Desk) : Prop :=
  ∀ w ∈ d.waiting, Auth.checkHeaders d.service.window w.now w.request.headers = .ok w.credentials

theorem orderly_start (ledger : BalanceSheet) (ttl : Word 64) : (start ledger ttl).Orderly :=
  fun _ hw => nomatch hw

theorem orderly_step {d : Desk} (hd : d.Orderly) (h : Happening) : (d.step S h).Orderly := by
  unfold Orderly
  rw [window_step]
  cases h with
  | arrival now request =>
    unfold step
    dsimp only
    cases ha : d.service.arrive now request with
    | answered response => exact hd
    | waiting credentials route =>
      intro w hw
      rcases List.mem_append.mp hw with hw | hw
      · exact hd w hw
      · rw [List.mem_singleton.mp hw]
        exact ((Service.arrive_eq_waiting_iff _ _ _ _ _).mp ha).2
  | completion position =>
    unfold step
    dsimp only
    cases d.waiting[position]? with
    | none => exact hd
    | some w => exact fun w' hw' => hd w' (List.mem_of_mem_eraseIdx hw')
  | departure position => exact fun w hw => hd w (List.mem_of_mem_eraseIdx hw)
  | meanwhile change => exact hd

/-- the cache is asked only about timestamps inside the window of their own reading -/
theorem near_of_mem_log {d : Desk} (hd : d.Orderly) (happenings : List Happening) :
    ∀ y ∈ d.log S happenings, y.now.distance y.timestamp ≤ d.service.window.val := by
  induction happenings generalizing d with
  | nil => exact fun y hy => nomatch hy
  | cons h rest ih =>
    intro y hy
    rcases List.mem_append.mp hy with hy | hy
    · cases h with
      | completion position =>
        obtain ⟨w, hw, hy⟩ := Option.bind_eq_some_iff.mp (Option.mem_toList.mp hy)
        obtain ⟨x, hx, rfl⟩ := Option.map_eq_some_iff.mp hy
        unfold Auth.sighting? at hx
        split at hx
        · cases hx
          exact (Service.presented_of_checkHeaders (hd w (List.mem_of_getElem? hw))).near
        · cases hx
      | arrival | departure | meanwhile => cases hy
    · rw [← window_step (S := S) d h]
      exact ih (orderly_step hd h) y hy

end

/-! ## Accepted twice -/

/-- somebody funds a channel of 40 with 10, in a service whose window is a second.  A copy of the
request arrives at the end of the window, and its body is slow.  A millisecond later another request
arrives; it is finished first, and the cache forgets the funding.  Then the body of the copy is there,
and the channel is funded again.  So it is not enough for the cache that every timestamp is inside
the window of its own reading. -/
theorem accepted_twice_overlapping :
    let secret : Secret := ⟨List.replicate 32 1, by decide⟩
    let ends : Ends := ⟨ed25519.account secret, .repeated 2⟩
    let message (time : Millis) (q : SignedRequest) : Request :=
      (Client.start secret .none).message ed25519 time q q.route
    let funding := message ⟨1000, by decide⟩
      (.addBalance ⟨ends.sender, ends.receiver, ⟨10, by decide⟩⟩)
    let sweeping := message ⟨2001, by decide⟩ (.closeExpired ⟨ends.sender⟩)
    let happenings : List Happening :=
      [.meanwhile fun r =>
          (r.openChannel ends.sender ends.receiver ⟨40, by decide⟩ ⟨10, by decide⟩).2,
        .arrival ⟨1000, by decide⟩ funding, .completion 0,
        .arrival ⟨2000, by decide⟩ funding, .arrival ⟨2001, by decide⟩ sweeping,
        .completion 1, .completion 0]
    let d := start (BalanceSheet.ofList [(ends.sender, ⟨100, by decide⟩)]) ⟨1, by decide⟩
    let asked : List Sighting :=
      [⟨List.replicate 64 1, ⟨1000, by decide⟩, ⟨1000, by decide⟩⟩,
        ⟨List.replicate 64 2, ⟨2001, by decide⟩, ⟨2001, by decide⟩⟩,
        ⟨List.replicate 64 1, ⟨1000, by decide⟩, ⟨2000, by decide⟩⟩]
    (readings happenings).Pairwise (· ≤ ·) ∧
      (d.after ed25519 happenings).service.registry.balanceAt ends = ⟨60, by decide⟩ ∧
      ¬ ReplayCache.AcceptedOnce (d.log ed25519 happenings) ∧
      (∀ x ∈ asked, x.now.distance x.timestamp ≤ d.service.window.val) ∧
      ¬ ReplayCache.AcceptedOnce (ReplayCache.rulings d.service.window .empty asked) := by
  decide +kernel

/-- however requests overlap, and in whatever order the cache itself is asked about timestamps inside
the window of their own readings: only what overtakes a signature lets it be accepted twice -/
theorem once_unless_overtaken (S : SignatureScheme) (ledger : BalanceSheet) (ttl : Word 64)
    (happenings : List Happening) :
    let d := start ledger ttl
    ReplayCache.OnceUnlessOvertaken d.service.window (d.log S happenings) ∧
      ∀ (window : Millis) (xs : List Sighting),
        (∀ x ∈ xs, x.now.distance x.timestamp ≤ window.val) →
        ReplayCache.OnceUnlessOvertaken window (ReplayCache.rulings window .empty xs) := by
  intro d
  constructor
  · have hwrote : ReplayCache.empty.Wrote d.service.window (d.log S happenings) :=
      wrote_log d happenings
    have hnear := near_of_mem_log (S := S) (orderly_start ledger ttl) happenings
    exact ReplayCache.onceUnlessOvertaken_of_near hwrote hnear
  · intro window xs hxs
    refine ReplayCache.onceUnlessOvertaken_of_near (ReplayCache.empty.wrote_rulings window xs) ?_
    intro y hy
    have hmem : y.toSighting ∈ xs := by
      rw [← ReplayCache.empty.map_rulings window xs]
      exact List.mem_map_of_mem hy
    exact hxs y.toSighting hmem

/-- the cache is asked about a signature, about another one that overtakes it, and about the first
again, all of them inside the window of a second -/
theorem once_unless_overtaken_asked :
    let window : Millis := ⟨1000, by decide⟩
    let first : Sighting := ⟨List.replicate 64 1, ⟨1000, by decide⟩, ⟨1000, by decide⟩⟩
    let other : Sighting := ⟨List.replicate 64 2, ⟨2001, by decide⟩, ⟨2001, by decide⟩⟩
    let again : Sighting := { first with now := ⟨2000, by decide⟩ }
    (∀ x ∈ [first, other, again], x.now.distance x.timestamp ≤ window.val) ∧
      ReplayCache.rulings window .empty [first, other, again] =
        [⟨first, true⟩, ⟨other, true⟩, ⟨again, true⟩] ∧
      first.timestamp.val + window.val < other.now.val ∧ again.now < other.now := by
  intro window first other again
  have hnear : ∀ x ∈ [first, other, again], x.now.distance x.timestamp ≤ window.val := by decide
  have hrulings : ReplayCache.rulings window .empty [first, other, again] =
      [⟨first, true⟩, ⟨other, true⟩, ⟨again, true⟩] := by decide +kernel
  have hlog := (once_unless_overtaken ed25519 .empty Word.zero []).2 window _ hnear
  rw [hrulings] at hlog
  obtain ⟨z, hz, hpast, hlt⟩ := hlog.overtaken [] [⟨other, true⟩] [] _ _ rfl rfl rfl rfl rfl
  rw [List.mem_singleton.mp hz] at hpast hlt
  exact ⟨hnear, hrulings, hpast, hlt⟩

end Desk
end PayChannel
