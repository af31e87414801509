import PayChannel.Client.Calls

/-!
# Clients that calls share

Several calls may use one client at a time.  What they share is its last timestamp, which each of them
reads, and exchanges for a later one if it is still what has been read.  The reading of the clock that
goes into it is older, and the clock may jump; and each call works its timestamp out once more, from
what it has replaced.

* `Stage`, `Update`    how far a call has come, and the updates of the last timestamp;
* `Turn`, `SharedClient.step`    the moves of the calls, in any order;
* `SharedClient.attempt`    the moves of one attempt.
-/

namespace PayChannel

/-- how far a call has come with the attempt that it is at -/
inductive Stage where
  | idle
  /-- the clock has been read -/
  | looked (now : Millis)
  /-- the last timestamp has been read, or found to be another one -/
  | loaded (now last : Millis)
  /-- the last timestamp has been replaced -/
  | updated (now previous : Millis)

/-- the timestamp that a call has drawn and not used yet -/
def Stage.timestamp? : Stage → Option Millis
  | updated now previous => some (Client.timestampAfter previous now)
  | _ => none

structure Update where
  now : Millis
  previous : Millis
  stored : Millis

/-- what the call that made the update takes for its timestamp -/
def Update.returned (u : Update) : Millis :=
  Client.timestampAfter u.previous u.now

/-- a client that any number of calls use, the updates of its last timestamp, and the timestamps and
bodies that have been signed, each in their order -/
structure SharedClient where
  client : Client
  stages : Nat → Stage
  updates : List Update
  signed : List (Millis × Bytes)

inductive Turn where
  /-- an attempt begins with a reading of the clock -/
  | look (call : Nat) (now : Millis)
  | load (call : Nat)
  /-- the last timestamp is replaced if it is still what was read; even then it may fail -/
  | exchange (call : Nat) (fails : Bool)
  | sign (call : Nat) (body : Bytes)

namespace SharedClient

def start (secret : Secret) (policy : RetryPolicy) : SharedClient :=
  ⟨Client.start secret policy, fun _ => .idle, [], []⟩

def enter (s : SharedClient) (call : Nat) (stage : Stage) : SharedClient :=
  { s with stages := fun other => if other = call then stage else s.stages other }

/-- the client after a move; a move that is not the next one of its call does nothing -/
def step (s : SharedClient) : Turn → SharedClient
  | .look call now =>
    match s.stages call with
    | .idle => s.enter call (.looked now)
    | _ => s
  | .load call =>
    match s.stages call with
    | .looked now => s.enter call (.loaded now s.client.lastTimestamp)
    | _ => s
  | .exchange call fails =>
    match s.stages call with
    | .loaded now last =>
      if s.client.lastTimestamp = last ∧ fails = false then
        let (stored, client) := s.client.nextTimestamp now
        { s.enter call (.updated now last) with
          client
          updates := s.updates ++ [⟨now, last, stored⟩] }
      else s.enter call (.loaded now s.client.lastTimestamp)
    | _ => s
  | .sign call body =>
    match s.stages call with
    | .updated now previous =>
      { s.enter call .idle with
        signed := s.signed ++ [(Client.timestampAfter previous now, body)] }
    | _ => s

def after (s : SharedClient) (turns : List Turn) : SharedClient :=
  turns.foldl step s

def messages (s : SharedClient) : List Bytes :=
  s.signed.map fun m => requestMessage m.1 m.2

/-- the moves of an attempt that nothing comes between -/
def attempt (call : Nat) (now : Millis) (body : Bytes) : List Turn :=
  [.look call now, .load call, .exchange call false, .sign call body]

end SharedClient
end PayChannel
