import LdapDecoy.Ldap.Message

/-!
# Requests in flight

Which requests of a connection are being handled, and which of them have been abandoned meanwhile.
-/
namespace LdapDecoy
open Ldap

/-- Each request in flight with the flag of its abandonment. -/
structure InFlight where
  flags : List (MessageId × Bool)
  deriving DecidableEq, Repr

namespace InFlight

def none : InFlight := ⟨[]⟩

/-- Stops tracking a request. -/
def finish (inFlight : InFlight) (id : MessageId) : InFlight :=
  ⟨inFlight.flags.filter fun entry => entry.1 ≠ id⟩

/-- Starts tracking a request, with its flag cleared. -/
def begin (inFlight : InFlight) (id : MessageId) : InFlight :=
  ⟨(id, false) :: (inFlight.finish id).flags⟩

def contains (inFlight : InFlight) (id : MessageId) : Bool := inFlight.flags.any fun entry => entry.1 = id

/-- Sets the flag of a request that is in flight. -/
def abandon (inFlight : InFlight) (id : MessageId) : InFlight :=
  ⟨inFlight.flags.map fun entry => if entry.1 = id then (id, true) else entry⟩

def isAbandoned (inFlight : InFlight) (id : MessageId) : Bool :=
  (inFlight.flags.lookup id).getD false

/-- The abandoned requests, ascending. -/
def abandoned (inFlight : InFlight) : List MessageId :=
  ((inFlight.flags.filter (·.2)).map (·.1)).mergeSort (· ≤ ·)

end InFlight

end LdapDecoy
