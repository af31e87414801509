import PayChannel.Crypto.Scheme
import PayChannel.Node.Disk
import PayChannel.Node.Run
import PayChannel.Node.Server

/-!
# The program

Reads the command line, runs the command on the files of the machine, and tells what came out.  The
exit code is 0 for success, 1 for a fault, and 2 for a call that is not well formed.
-/

namespace PayChannel.Program

/-- a secret that nobody else knows -/
def freshSecret : IO Secret := do
  let bytes := (← IO.getRandomBytes 32).toList
  if h : bytes.length = 32 then pure ⟨bytes, h⟩
  else throw (IO.userError "no random bytes")

def giveUp (reason : String) : IO UInt32 := do
  IO.eprintln ("Error: " ++ reason)
  pure 1

def tell (text : String) : IO UInt32 := do
  IO.print text
  pure 0

def run (command : Command) : IO UInt32 := do
  match ← command.run ed25519 (← freshSecret) with
  | .done output => tell output
  | .failed fault => giveUp fault.message
  | .serve config =>
    try
      Server.run ed25519 config
      pure 0
    catch e => giveUp (toString e)

end PayChannel.Program

open PayChannel

def main (args : List String) : IO UInt32 := do
  match Call.parse args with
  | some (.command command) => Program.run command
  | some (.help topic) => Program.tell topic.text
  | some .version => Program.tell versionText
  | none =>
    IO.eprint Topic.program.text
    pure 2
