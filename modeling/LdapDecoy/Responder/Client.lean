import LdapDecoy.Event
import LdapDecoy.Fault
import LdapDecoy.Ldap.Reply
import LdapDecoy.Net.Endpoint

/-!
# Clients

The connection as a dialogue sees it. What an upgrade does beyond its outcome is logged.
-/
namespace LdapDecoy.Responder
open Ldap

/-- Whether replies can be written. -/
inductive Outlet where
  | working
  /-- So many more replies, and then the fault for each. -/
  | failing (left : Nat) (fault : SessionFault)
  deriving DecidableEq, Repr

/-- Whether the next reply can be written, and the outlet behind it. -/
def Outlet.write : Outlet → Except SessionFault Unit × Outlet
  | working => (.ok (), working)
  | failing 0 fault => (.error fault, failing 0 fault)
  | failing (left + 1) fault => (.ok (), failing left fault)

/-- A connection with the state `σ`. -/
class Client (σ : Type) where
  remote : σ → Net.Endpoint
  write : Reply → σ → Except SessionFault Unit × σ
  isAbandoned : MessageId → σ → Bool
  /-- Flags a request that is in flight; false if there is none. -/
  abandon : MessageId → σ → Bool × σ
  /-- Encrypts the connection; on failure it goes on as it was. -/
  startTls : σ → Except TlsFault Unit × List Event × σ

end LdapDecoy.Responder
