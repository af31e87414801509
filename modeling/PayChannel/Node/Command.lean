import PayChannel.Account
import PayChannel.Decimal
import PayChannel.Node.Usage

/-!
# The command line

A call names one of four commands and gives its options, each at most once: `--name value`,
`--name=value`, or with the option's letter `-n value`, `-nvalue`, `-n=value`.  A value that begins
with a minus sign has to be given with an equals sign.

* `Call.parse`    what a call asks for, or nothing if it is not well formed.
-/

namespace PayChannel

inductive Command where
  /-- serve as the configuration in a file says -/
  | serve (config : String)
  /-- write the standard configuration to a file -/
  | generateConfig (path : String)
  /-- make a key pair and keep it in a file -/
  | keygen (path : String)
  /-- sign a voucher with the key in a file -/
  | signVoucher (key : String) (receiver : Account) (nonce : Nonce) (session : SessionId)
      (amount : Amount)

inductive Call where
  | command (command : Command)
  | help (topic : Topic)
  | version

namespace Call

/-! ## Options -/

/-- an option: its name, its letter if it has one, and which values it takes -/
structure Flag where
  name : String
  letter : Option Char
  accepts : String → Bool

/-- the options of a call with their values, or a plea for help -/
inductive Options where
  | help
  | values (values : List (String × String))

def isFlag (arg : String) : Bool :=
  match arg.toList with
  | '-' :: _ :: _ => true
  | _ => false

/-- a text before and after its first equals sign -/
def splitValue (text : List Char) : String × Option String :=
  let name := String.ofList (text.takeWhile (· ≠ '='))
  match text.dropWhile (· ≠ '=') with
  | [] => (name, none)
  | _ :: value => (name, some (String.ofList value))

/-- an argument as an option with the value that it carries, if it does -/
def Flag.ofArg? (flags : List Flag) (arg : String) : Option (Flag × Option String) :=
  match arg.toList with
  | '-' :: '-' :: text =>
    let (name, value) := splitValue text
    (flags.find? fun f => f.name = name).map fun f => (f, value)
  | '-' :: letter :: text =>
    let value := match text with
      | [] => none
      | '=' :: value => some (String.ofList value)
      | value => some (String.ofList value)
    (flags.find? fun f => f.letter = some letter).map fun f => (f, value)
  | _ => none

/-- adds a value to those given, if the option takes it and has none yet -/
def addValue (flag : Flag) (value : String) (given : List (String × String)) :
    Option (List (String × String)) :=
  if flag.accepts value ∧ (given.lookup flag.name).isNone then some ((flag.name, value) :: given)
  else none

def asksHelp (arg : String) : Bool :=
  match arg.toList with
  | '-' :: 'h' :: _ => true
  | _ => arg = "--help"

/-- reads the options of a call; `pending` is the one whose value comes next -/
def readOptions (flags : List Flag) :
    Option Flag → List (String × String) → List String → Option Options
  | none, given, [] => some (.values given)
  | some _, _, [] => none
  | some flag, given, arg :: args =>
    if isFlag arg then none
    else (addValue flag arg given).bind fun given => readOptions flags none given args
  | none, given, arg :: args =>
    if asksHelp arg then some .help
    else if arg = "--" then if args = [] then some (.values given) else none
    else
      match Flag.ofArg? flags arg with
      | none => none
      | some (flag, none) => readOptions flags (some flag) given args
      | some (flag, some value) =>
        (addValue flag value given).bind fun given => readOptions flags none given args

/-! ## Values -/

def isPath (text : String) : Bool :=
  text ≠ ""

def word? (bits : Nat) (text : String) : Option (Word bits) :=
  Decimal.parseWord? bits (Bytes.ofString text)

/-- the session number that a text is; zero may have a minus sign -/
def session? (text : String) : Option SessionId :=
  match Bytes.ofString text with
  | b :: ds =>
    if b = Ascii.minus ∧ ds ≠ [] ∧ ds.all (· = Ascii.zero) then some Word.zero else word? 32 text
  | [] => none

/-! ## Commands -/

def pathFlag (name : String) (letter : Char) : Flag :=
  ⟨name, some letter, isPath⟩

def voucherFlags : List Flag :=
  [pathFlag "key" 'k',
   ⟨"receiver", none, fun text => (Account.parse text).toOption.isSome⟩,
   ⟨"nonce", none, fun text => (word? 64 text).isSome⟩,
   ⟨"session", none, fun text => (session? text).isSome⟩,
   ⟨"amount", none, fun text => (word? 128 text).isSome⟩]

def signVoucher? (values : List (String × String)) : Option Command := do
  let receiver ← (values.lookup "receiver").bind fun text => (Account.parse text).toOption
  let nonce ← (values.lookup "nonce").bind (word? 64)
  let session ← (values.lookup "session").bind session?
  let amount ← (values.lookup "amount").bind (word? 128)
  some (.signVoucher ((values.lookup "key").getD "keys/account.toml") receiver nonce session amount)

def withOptions (topic : Topic) (flags : List Flag) (args : List String)
    (build : List (String × String) → Option Command) : Option Call :=
  match readOptions flags none [] args with
  | none => none
  | some .help => some (help topic)
  | some (.values values) => (build values).map command

def topic? (name : String) : Option Topic :=
  match name with
  | "serve" => some .serve
  | "generate-config" => some .generateConfig
  | "keygen" => some .keygen
  | "sign-voucher" => some .signVoucher
  | "help" => some .help
  | _ => none

def parse : List String → Option Call
  | [] => none
  | "serve" :: args =>
    withOptions .serve [pathFlag "config" 'c'] args fun values =>
      some (.serve ((values.lookup "config").getD "config/node.toml"))
  | "generate-config" :: args =>
    withOptions .generateConfig [pathFlag "path" 'p'] args fun values =>
      some (.generateConfig ((values.lookup "path").getD "config/node.toml"))
  | "keygen" :: args =>
    withOptions .keygen [pathFlag "path" 'p'] args fun values =>
      some (.keygen ((values.lookup "path").getD "keys/account.toml"))
  | "sign-voucher" :: args => withOptions .signVoucher voucherFlags args signVoucher?
  | ["help"] => some (help .program)
  | ["help", name] => (topic? name).map help
  | arg :: _ =>
    if asksHelp arg then some (help .program)
    else if arg = "--version" ∨ arg.startsWith "-V" then some version
    else none

end Call
end PayChannel
