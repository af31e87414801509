import PayChannel.Client.Calls
import PayChannel.Service.Handler

/-!
# A service in the same program

A client and a service in one program need no network: every request is answered at once, at the
time that their common clock shows.
-/

namespace PayChannel

structure Embedded where
  service : Service
  now : Millis

namespace Embedded

def exchange (S : SignatureScheme) (request : Http.Request) (e : Embedded) : Delivery × Embedded :=
  let (response, service) := e.service.handle S e.now request
  (.ok ⟨response.status, response.body⟩, { e with service })

/-- the transport to an embedded service; a wait moves its clock on -/
def transport (S : SignatureScheme) : Transport Embedded :=
  Transport.ofExchange (exchange S) (fun e => (.ok (), e))
    (fun duration e => { e with now := e.now.satAdd (Word.clip duration) })
    (fun e => (e.now, e))

end Embedded
end PayChannel
