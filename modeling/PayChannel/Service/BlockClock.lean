import PayChannel.Service.Handler

/-!
# The block clock

While a service runs, its ledger gains a block whenever one more block time has passed since the
start.

* `Service.tick`    one block;
* `Service.runUntil`    all blocks that come due in a span of time.
-/

namespace PayChannel.Service

def tick (s : Service) : Service :=
  s.withLedger fun ledger => ledger.advance Word.one

/-- how many blocks come due after `start` and not after `stop`, both in milliseconds since the
clock was started -/
def blocksDue (blockTime : Millis) (start stop : Nat) : Nat :=
  stop / blockTime.val - start / blockTime.val

/-- the service after `count` more blocks -/
def ticks : Nat → Service → Service
  | 0, s => s
  | count + 1, s => ticks count s.tick

/-- the service after all blocks that come due after `start` and not after `stop` -/
def runUntil (s : Service) (blockTime : Millis) (start stop : Nat) : Service :=
  s.ticks (blocksDue blockTime start stop)

end PayChannel.Service
