import PayChannel.Http.Message
import PayChannel.Json.Kind

/-!
# Routes

Which path asks for what.  Three kinds of path carry accounts, as percent-encoded text; five paths
lead to signed operations.

* `Route.ofPath?`    the route of a path.
-/

namespace PayChannel

inductive SignedRoute where
  | openChannel
  | addBalance
  | claim
  | closeChannel
  | closeExpired
deriving DecidableEq

namespace SignedRoute

def all : List SignedRoute :=
  [openChannel, addBalance, claim, closeChannel, closeExpired]

def name : SignedRoute → String
  | openChannel => "open"
  | addBalance => "add-balance"
  | claim => "claim"
  | closeChannel => "close"
  | closeExpired => "close-expired"

def path (route : SignedRoute) : String :=
  "/channels/" ++ route.name

end SignedRoute

/-- what a path asks for; account texts are as they stand in the path -/
inductive Route where
  | health
  | statistics
  | holdings (account : Bytes)
  | channel (sender receiver : Bytes)
  | session (sender receiver : Bytes)
  | signed (route : SignedRoute)
deriving DecidableEq

namespace Route

/-- the route of a path.  A fixed name takes precedence over an account, and an account that ends
the path is not empty. -/
def ofPath? (path : Bytes) : Option Route :=
  let is (piece : Bytes) (name : String) : Bool := piece = Bytes.ofString name
  match Http.segments path with
  | [[], a] =>
    if is a "health" then some health
    else if is a "statistics" then some statistics
    else none
  | [[], a, b] =>
    if is a "channels" then
      (SignedRoute.all.find? fun route => is b route.name).map signed
    else if is a "accounts" && b ≠ [] then some (holdings b)
    else none
  | [[], a, b, c] => if is a "channels" && c ≠ [] then some (channel b c) else none
  | [[], a, b, c, d] => if is a "channels" && is d "session" then some (session b c) else none
  | _ => none

def account? (piece : Bytes) : Option Account :=
  let text := Http.unescape piece
  if Json.isText text then (Account.ofText text).toOption else none

end Route
end PayChannel
