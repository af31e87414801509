import PayChannel.Node.Config
import PayChannel.Service.BlockClock
import Std.Async.Signal
import Std.Http.Server
import Std.Time

/-!
# The server

Serves a configuration over HTTP until it is interrupted.  All connections share one service; each
step of the service is a single change of the shared value.

* `Server.run`    binds the endpoint, starts the block clock, and waits for an interrupt.
-/

namespace PayChannel.Server

open Std.Async

/-- the service that all connections share -/
abbrev Shared := Std.Mutex Service

def snapshot (shared : Shared) : BaseIO Service :=
  shared.atomically get

def step {α : Type} (shared : Shared) (change : Service → α × Service) : BaseIO α :=
  shared.atomically (modifyGet change)

def clock : IO Millis := do
  let now ← Std.Time.Timestamp.now
  pure (Word.clip now.toMillisecondsSinceUnixEpoch.toInt.toNat)

/-! ## Messages -/

/-- the head of a request, with its body still to come -/
def requestOf (head : Std.Http.Request.Head) : Http.Request where
  method := toString head.method
  target := Bytes.ofString (toString head.uri)
  headers := head.headers.toList.map fun (name, value) =>
    (Bytes.ofString name.value, Bytes.ofString value.value)
  body := []

/-- a body up to and with the piece that takes it over the limit -/
def readBody (body : Std.Http.Body.Stream) : ContextAsync Bytes := do
  let mut bytes := ByteArray.empty
  for chunk in body do
    bytes := bytes ++ chunk.data
    if Auth.maxBody < bytes.size then break
  pure bytes.toList

def send (response : Http.Response) : Async (Std.Http.Response Std.Http.Body.Any) := do
  let status := (Std.Http.Status.ofCode none (UInt16.ofNat response.status)).getD .ok
  let builder := Std.Http.Response.withStatus status
  let builder :=
    if response.isJson then builder.header .contentType (.mk "application/json") else builder
  let full ← Std.Http.Body.Full.ofByteArray (ByteArray.mk response.body.toArray)
  pure (builder.body full)

/-- answers a request; its body is read only if the answer hangs on it -/
def answer (S : SignatureScheme) (shared : Shared)
    (request : Std.Http.Request Std.Http.Body.Stream) :
    ContextAsync (Std.Http.Response Std.Http.Body.Any) := do
  let now ← clock
  let head := requestOf request.line
  match (← snapshot shared).arrive now head with
  | .answered response => send response
  | .waiting credentials route =>
    let body ← readBody request.body
    let response ← step shared fun s => s.finish S now credentials route { head with body }
    send response

/-! ## Running -/

/-- makes the blocks that come due in a span of time -/
def makeBlocks (shared : Shared) (blockTime : Millis) (start stop : Nat) : IO Unit :=
  step shared fun s => ((), s.runUntil blockTime start stop)

def runClock (shared : Shared) (blockTime : Millis) : Async Unit := do
  let start ← IO.monoMsNow
  let mut last := 0
  repeat
    let due := blockTime.val - last % blockTime.val
    sleep (.ofNat (min due 60000))
    let now := (← IO.monoMsNow) - start
    makeBlocks shared blockTime last now
    last := now

/-- the address to bind for an endpoint; the zone is the operating system's to choose -/
def addressOf : Net.Endpoint → Std.Net.SocketAddress
  | .v4 address number =>
    .v4 ⟨⟨#v[UInt8.ofNat address.first.val, UInt8.ofNat address.second.val,
      UInt8.ofNat address.third.val, UInt8.ofNat address.fourth.val]⟩, UInt16.ofNat number.val⟩
  | .v6 address _ number =>
    let segments := address.groups.map fun g => UInt16.ofNat g.val
    have size_eq : segments.toArray.size = 8 := by simp [segments, address.length_eq]
    .v6 ⟨⟨⟨segments.toArray, size_eq⟩⟩, UInt16.ofNat number.val⟩

def run (S : SignatureScheme) (config : Config) : IO Unit :=
  Async.block do
    let shared ← Std.Mutex.new config.service
    background (runClock shared config.blockTime)
    let server ← Std.Http.Server.serve (addressOf config.listen)
      (Std.Http.Server.Handler.ofFn (answer S shared))
    let interrupt ← Signal.Waiter.mk .sigint false
    let task ← interrupt.wait
    discard (await task)
    server.shutdown

end PayChannel.Server
