import PayChannel.Node.Command
import PayChannel.Node.Files
import PayChannel.Voucher

/-!
# Running commands

* `Command.run`    what a command does to the files, and what comes out.
-/

namespace PayChannel

inductive Outcome where
  /-- it is done, with something to print -/
  | done (output : String)
  /-- a server is to be started -/
  | serve (config : Config)
  | failed (fault : Fault)

namespace Outcome

/-- the outcome of a step that prints nothing -/
def ofResult : Except Fault Unit → Outcome
  | .ok () => done ""
  | .error fault => failed fault

end Outcome

section
variable {m : Type → Type} [Monad m] [FileStore m]

/-- the configuration in a file, or the standard one, which is kept in the file, if there is no
file -/
def Config.loadOrSave (path : String) : m (Except Fault Config) := do
  if ← FileStore.has path then Config.load path
  else
    match ← Config.standard.save path with
    | .error fault => pure (.error fault)
    | .ok () => pure (.ok Config.standard)

/-- runs a command; `fresh` is a secret that nobody else knows -/
def Command.run (S : SignatureScheme) (fresh : Secret) : Command → m Outcome
  | .serve path => do
    match ← Config.loadOrSave path with
    | .error fault => pure (.failed fault)
    | .ok config => pure (.serve config)
  | .generateConfig path => Outcome.ofResult <$> Config.standard.save path
  | .keygen path => Outcome.ofResult <$> (KeyPair.ofSecret S fresh).saveFile path
  | .signVoucher path receiver nonce session amount => do
    match ← KeyPair.loadFile S path with
    | .error fault => pure (.failed fault)
    | .ok secret =>
      pure (.done (Hex.text (S.signVoucher secret receiver nonce session amount) ++ "\n"))

end
end PayChannel
