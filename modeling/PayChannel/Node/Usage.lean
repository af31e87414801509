/-!
# How to use the command line

* `Topic.text`    what is printed to someone who asks for help;
* `versionText`    what is printed to someone who asks for the version.
-/

namespace PayChannel

/-- what help can be asked about: the program, one of its commands, or help itself -/
inductive Topic where
  | program
  | help
  | serve
  | generateConfig
  | keygen
  | signVoucher
deriving DecidableEq

namespace Topic

def purpose : Topic → String
  | program => "Micropayment channel node"
  | help => "Print this message or the help of the given subcommand(s)"
  | serve => "Serve the channel API using the provided configuration file"
  | generateConfig => "Generate a default node configuration file"
  | keygen => "Generate a new Ed25519 account key"
  | signVoucher => "Sign a payment voucher with a sender key and print the signature as hex"

def synopsis : Topic → String
  | program => "<COMMAND>"
  | help => "help [COMMAND]..."
  | serve => "serve [OPTIONS]"
  | generateConfig => "generate-config [OPTIONS]"
  | keygen => "keygen [OPTIONS]"
  | signVoucher =>
    "sign-voucher [OPTIONS] --receiver <RECEIVER> --nonce <NONCE> --session <SESSION> " ++
      "--amount <AMOUNT>"

def details : Topic → List String
  | program =>
    ["Commands:",
     "  serve            " ++ purpose serve,
     "  generate-config  " ++ purpose generateConfig,
     "  keygen           " ++ purpose keygen,
     "  sign-voucher     " ++ purpose signVoucher,
     "  help             " ++ purpose help,
     "",
     "Options:",
     "  -h, --help     Print help",
     "  -V, --version  Print version"]
  | help =>
    ["Arguments:",
     "  [COMMAND]...  Print help for the subcommand(s)"]
  | serve =>
    ["Options:",
     "  -c, --config <CONFIG>  [default: config/node.toml]",
     "  -h, --help             Print help"]
  | generateConfig =>
    ["Options:",
     "  -p, --path <PATH>  [default: config/node.toml]",
     "  -h, --help         Print help"]
  | keygen =>
    ["Options:",
     "  -p, --path <PATH>  [default: keys/account.toml]",
     "  -h, --help         Print help"]
  | signVoucher =>
    ["Options:",
     "  -k, --key <KEY>            [default: keys/account.toml]",
     "      --receiver <RECEIVER>  ",
     "      --nonce <NONCE>        Channel generation, as reported by " ++
       "`/channels/:sender/:receiver/session`",
     "      --session <SESSION>    ",
     "      --amount <AMOUNT>      ",
     "  -h, --help                 Print help"]

def text (topic : Topic) : String :=
  let lines := [topic.purpose, "", "Usage: micropayment-node " ++ topic.synopsis, ""]
  String.join ((lines ++ topic.details).map fun line => line ++ "\n")

end Topic

def versionText : String :=
  "micropayment_channel 0.1.0\n"

end PayChannel
