import PayChannel.Word
import PayChannel.Table

/-!
# The replay cache

The cache remembers the signatures of accepted requests with their timestamps.  A timestamp that
has left the window is forgotten, because a request that carries it is denied for its age.

* `check`    accepts a signature that is not remembered, and remembers it;
* `get?_check_refused`, `get?_check_accepted`    what the cache remembers after a check.
-/

namespace PayChannel

/-- the timestamps of accepted requests, by signature -/
structure ReplayCache where
  seen : Table Bytes Millis

namespace ReplayCache

def empty : ReplayCache :=
  ⟨Table.empty⟩

def horizon (window now : Millis) : Millis :=
  now.satSub window

def prune (c : ReplayCache) (window now : Millis) : ReplayCache :=
  ⟨c.seen.retain fun _ stamp => horizon window now ≤ stamp⟩

/-- whether a signature is new; a new one is remembered -/
def check (c : ReplayCache) (window : Millis) (signature : Bytes) (timestamp now : Millis) :
    Bool × ReplayCache :=
  let pruned := c.prune window now
  if pruned.seen.contains signature then (false, pruned)
  else (true, ⟨pruned.seen.insert signature timestamp⟩)

theorem get?_prune (c : ReplayCache) (window now : Millis) (signature : Bytes) :
    (c.prune window now).seen.get? signature =
      (c.seen.get? signature).filter fun stamp => horizon window now ≤ stamp :=
  Table.get?_retain c.seen _ signature

theorem get?_check_refused {c : ReplayCache} {window now timestamp : Millis} {signature : Bytes}
    (h : (c.check window signature timestamp now).1 = false) :
    (c.check window signature timestamp now).2 = c.prune window now := by
  unfold check at h ⊢
  dsimp only at h ⊢
  split
  · rfl
  · rename_i hc
    rw [if_neg hc] at h
    cases h

theorem get?_check_accepted {c : ReplayCache} {window now timestamp : Millis} {signature : Bytes}
    (h : (c.check window signature timestamp now).1 = true) (other : Bytes) :
    (c.check window signature timestamp now).2.seen.get? other =
      if other = signature then some timestamp else (c.prune window now).seen.get? other := by
  unfold check at h ⊢
  dsimp only at h ⊢
  split
  · rename_i hc
    rw [if_pos hc] at h
    cases h
  · exact Table.get?_insert _ _ _ _

end ReplayCache
end PayChannel
