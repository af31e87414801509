import PayChannel.Api.Json
import PayChannel.Ledger.BalanceSheet
import PayChannel.Net.Endpoint
import PayChannel.Node.Fault
import PayChannel.Service.Handler
import PayChannel.Toml.Document
import PayChannel.Toml.Line

/-!
# Configurations

A configuration tells a node where to listen, how long a block takes, how long a signed request
stays fresh, and which accounts have funds from the start.  It is kept as a TOML document: unknown
keys are ignored, and all keys but the endpoint may be left out.

* `Config.parse`, `Config.write?`    the document;
* `Config.check`    a configuration in use has positive times;
* `Config.service`    the service that a configuration describes.
-/

namespace PayChannel

structure GenesisAccount where
  account : Account
  balance : Word 64
deriving DecidableEq

instance : Json.Record GenesisAccount where
  layout := [("account", .account), ("balance", .word 64)]
  values g := (g.account, g.balance, ())
  ofValues := fun (account, balance, ()) => { account, balance }
  ofValues_values _ := rfl

/-- the configuration of a node; block times are in milliseconds, the request time is in seconds -/
structure Config where
  listen : Net.Endpoint
  blockTime : Millis
  requestTtl : Word 64
  genesis : List GenesisAccount
deriving DecidableEq

def Toml.Value.account? (v : Toml.Value) : Option Account :=
  v.text?.bind fun s => (Account.parse s).toOption

namespace Config

/-! ## Defaults -/

def defaultBlockTime : Millis := ⟨5000, by decide⟩

def defaultRequestTtl : Word 64 := ⟨300, by decide⟩

def standard : Config where
  listen := .v4 ⟨⟨127, by decide⟩, ⟨0, by decide⟩, ⟨0, by decide⟩, ⟨1, by decide⟩⟩ ⟨9944, by decide⟩
  blockTime := defaultBlockTime
  requestTtl := defaultRequestTtl
  genesis := []

/-! ## Reading -/

/-- an account with funds from the values of its two fields -/
def genesisOfValues? (account balance : Toml.Value) : Option GenesisAccount := do
  let account ← account.account?
  let balance ← balance.word? 64
  some ⟨account, balance⟩

/-- an account with funds from a table with the two fields -/
def genesisOfEntries? (entries : Toml.Entries) : Option GenesisAccount := do
  let account ← Toml.Table.get? entries "account"
  let balance ← Toml.Table.get? entries "balance"
  genesisOfValues? account balance

/-- an account with funds from a table, or from a list that begins with the values of the fields -/
def genesisOfValue? : Toml.Value → Option GenesisAccount
  | .table _ entries => genesisOfEntries? entries
  | .list (account :: balance :: _) => genesisOfValues? account balance
  | _ => none

def genesisList? : Toml.Value → Option (List GenesisAccount)
  | .list elements => elements.mapM genesisOfValue?
  | .tables elements => elements.mapM genesisOfEntries?
  | _ => none

/-- the word of a key that may be left out -/
def wordOr (entries : Toml.Entries) (key : String) (default : Word 64) : Option (Word 64) :=
  match Toml.Table.get? entries key with
  | none => some default
  | some v => v.word? 64

def ofEntries? (entries : Toml.Entries) : Option Config := do
  let listen ← Toml.Table.get? entries "listen"
  let listen ← listen.text?
  let listen ← Net.Endpoint.parse (Bytes.ofString listen)
  let blockTime ← wordOr entries "block_time_ms" defaultBlockTime
  let requestTtl ← wordOr entries "request_ttl_secs" defaultRequestTtl
  let genesis ← match Toml.Table.get? entries "genesis" with
    | none => some []
    | some v => genesisList? v
  some { listen, blockTime, requestTtl, genesis }

/-- both times of a configuration in use are positive -/
def check (c : Config) : Except Fault Unit :=
  if c.blockTime.val = 0 then .error .zeroBlockTime
  else if c.requestTtl.val = 0 then .error .zeroRequestTtl
  else .ok ()

def parse (text : String) : Except Fault Config :=
  match (Toml.parse text).bind ofEntries? with
  | none => .error .configText
  | some c =>
    match c.check with
    | .error fault => .error fault
    | .ok () => .ok c

/-! ## Writing -/

/-- the tables of the accounts with funds, each after a blank line -/
def writeGenesis? : List GenesisAccount → Option String
  | [] => some ""
  | g :: rest => do
    let balance ← Toml.numberLine? "balance" g.balance.val
    let rest ← writeGenesis? rest
    some ("\n[[genesis]]\n" ++ Toml.textLine "account" g.account.toHex ++ balance ++ rest)

/-- a configuration as a document, unless a number in it is too large for one -/
def write? (c : Config) : Option String := do
  let blockTime ← Toml.numberLine? "block_time_ms" c.blockTime.val
  let requestTtl ← Toml.numberLine? "request_ttl_secs" c.requestTtl.val
  let genesis ← if c.genesis = [] then some "genesis = []\n" else writeGenesis? c.genesis
  some (Toml.textLine "listen" (Ascii.text c.listen.write) ++ blockTime ++ requestTtl ++ genesis)

/-! ## Use -/

/-- the balances that a node starts with; a later entry of an account wins -/
def balances (c : Config) : List (Account × Amount) :=
  c.genesis.map fun g =>
    (g.account, ⟨g.balance.val, Nat.lt_of_lt_of_le g.balance.isLt (by decide)⟩)

def service (c : Config) : Service :=
  Service.start (BalanceSheet.ofList c.balances) c.requestTtl

end Config
end PayChannel
