/-!
# Waiting

A wait ends when its time is over, but no wait is longer than thirty years.

* `Timer.wait`    how long a wait takes.
-/

namespace PayChannel.Timer

/-- the longest wait in milliseconds: thirty years of 365 days -/
def limit : Nat :=
  30 * 365 * 24 * 60 * 60 * 1000

/-- how many milliseconds a wait takes that is meant to take this many -/
def wait (duration : Nat) : Nat :=
  min duration limit

end PayChannel.Timer
