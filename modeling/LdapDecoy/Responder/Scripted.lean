import LdapDecoy.InFlight
import LdapDecoy.Responder.Run

/-!
# Scripted clients

A client whose answers are laid down beforehand: whether an upgrade works, and how many replies can still
be written before writing fails.
-/
namespace LdapDecoy.Responder
open Ldap

structure Scripted where
  remote : Net.Endpoint
  inFlight : InFlight
  upgrade : Except TlsFault Unit
  outlet : Outlet

namespace Scripted

/-- A client that nothing has gone wrong with. -/
def fresh (remote : Net.Endpoint) : Scripted := ⟨remote, .none, .ok (), .working⟩

def write (client : Scripted) : Except SessionFault Unit × Scripted :=
  let (written, outlet) := client.outlet.write
  (written, { client with outlet })

/-- What happens around the messages of a client, or a message. -/
inductive Step where
  | begin (id : MessageId)
  | finish (id : MessageId)
  | tls (outcome : Except TlsFault Unit)
  | outlet (outlet : Outlet)
  | message (message : Message)

instance : Client Scripted where
  remote client := client.remote
  write _ client := client.write
  isAbandoned id client := client.inFlight.isAbandoned id
  abandon id client :=
    (client.inFlight.contains id, { client with inFlight := client.inFlight.abandon id })
  startTls client := (client.upgrade, [], client)

/-- The client after a step, and for a message what came of it. -/
def step {τ : Type} [Storage τ] (responder : Responder) (step : Step) (client : Scripted) (storage : τ) :
    Outcome Scripted τ :=
  let unchanged (client : Scripted) : Outcome Scripted τ := ⟨.ok .proceed, client, storage, []⟩
  match step with
  | .begin id => unchanged { client with inFlight := client.inFlight.begin id }
  | .finish id => unchanged { client with inFlight := client.inFlight.finish id }
  | .tls outcome => unchanged { client with upgrade := outcome }
  | .outlet outlet => unchanged { client with outlet }
  | .message message => responder.handle message client storage

end Scripted

end LdapDecoy.Responder
