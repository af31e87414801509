import PayChannel.Client.Retry
import PayChannel.Http.Message
import PayChannel.Timer

/-!
# Transports

A transport carries requests to a service and tells the time.  What it keeps between calls is its
state, which every operation takes and gives back.

* `Transport.ofExchange`    a transport over any way to exchange HTTP messages;
* `Transport.checkHealth`    whether a service answers at all;
* `baseUrl`    the address that paths are appended to.
-/

namespace PayChannel

/-- a way to reach a service; `σ` is what it keeps between calls -/
structure Transport (σ : Type) where
  get : (path : String) → σ → Delivery × σ
  post : (path : String) → (headers : List (String × String)) → (body : Bytes) → σ → Delivery × σ
  reconnect : σ → Except String Unit × σ
  wait : Nat → σ → σ
  now : σ → Millis × σ

namespace Transport

variable {σ : Type}

/-- the pause before an attempt is repeated: a wait, and a new connection if no reply came; whether
the connection was made does not matter -/
def pause (T : Transport σ) (isLost : Bool) (duration : Nat) (s : σ) : σ :=
  let s := T.wait duration s
  if isLost then (T.reconnect s).2 else s

def header (h : String × String) : Http.Header :=
  (Bytes.ofString h.1, Bytes.ofString h.2)

def getRequest (path : String) : Http.Request where
  method := "GET"
  target := Bytes.ofString path
  headers := []
  body := []

def postRequest (path : String) (headers : List (String × String)) (body : Bytes) :
    Http.Request where
  method := "POST"
  target := Bytes.ofString path
  headers := header ("Content-Type", "application/json") :: headers.map header
  body := body

/-- the transport over a way to exchange a request for a reply; `pass` is what happens while some
milliseconds pass -/
def ofExchange (exchange : Http.Request → σ → Delivery × σ)
    (reconnect : σ → Except String Unit × σ) (pass : Nat → σ → σ) (now : σ → Millis × σ) :
    Transport σ where
  get path := exchange (getRequest path)
  post path headers body := exchange (postRequest path headers body)
  reconnect := reconnect
  wait duration := pass (Timer.wait duration)
  now := now

def checkHealth (T : Transport σ) (s : σ) : Except String Unit × σ :=
  match T.get "/health" s with
  | (.error reason, s) => (.error reason, s)
  | (.ok reply, s) =>
    if isSuccess reply.status then (.ok (), s)
    else (.error ("health check returned status " ++ toString reply.status), s)

end Transport

def baseUrl (url : String) : String :=
  String.ofList (url.toList.reverse.dropWhile (· = '/')).reverse

end PayChannel
