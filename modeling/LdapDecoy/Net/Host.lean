import LdapDecoy.Net.Endpoint
import LdapDecoy.Os.Failure

/-!
# Hosts

What the machine that the server runs on answers when a socket is bound or connected. Low ports need a
privilege. Which addresses can be bound depends on whether network interfaces are up: without any there is no
table of addresses that could object to one of the shorter kind, the longer kind is checked all the same, and
no connection can be made.
-/
namespace LdapDecoy.Net

structure Host where
  /-- Whether ports below 1024 can be bound. -/
  isPrivileged : Bool
  /-- Whether the loopback interface is up. -/
  isUp : Bool
  /-- The port that is given to a socket that asks for none. -/
  freePort : UInt16
  deriving DecidableEq, Repr

namespace Host

/-- A host in a network of its own that nothing has been set up in. -/
def isolated : Host := ⟨false, false, 40001⟩

/-- A host on which clients reach the server over the loopback interface. -/
def connected : Host := ⟨false, true, 40001⟩

/-- The shorter addresses that a host with its loopback interface up can bind. -/
def isLocal4 (a b c d : UInt8) : Bool :=
  a = 127 || (a, b, c, d) = (0, 0, 0, 0) || (a, b, c, d) = (255, 255, 255, 255) || (224 ≤ a && a < 240)

def canBind4 (host : Host) (a b c d : UInt8) : Bool := !host.isUp || isLocal4 a b c d

/-- The four octets in an address of the longer kind that stands for one of the shorter. -/
def mapped? : List UInt16 → Option (UInt8 × UInt8 × UInt8 × UInt8)
  | [0, 0, 0, 0, 0, 0xFFFF, x, y] =>
    some (UInt8.ofNat (x.toNat / 256), UInt8.ofNat (x.toNat % 256), UInt8.ofNat (y.toNat / 256),
      UInt8.ofNat (y.toNat % 256))
  | _ => none

/-- Addresses that mean something on one interface only. -/
def isLinkLocal (groups : List UInt16) : Bool :=
  match groups with
  | first :: _ => (0xFE80 ≤ first && first < 0xFEC0) || first &&& 0xFF0F = 0xFF02 || first &&& 0xFF0F = 0xFF01
  | [] => false

/-- What is wrong with binding an address of the longer kind. -/
def refusal6? (host : Host) (groups : List UInt16) (scope : UInt32) : Option Os.Failure :=
  if groups.all (· = 0) then none
  else
    match mapped? groups with
    | some (a, b, c, d) => if host.canBind4 a b c d then none else some Os.addressNotAvailable
    | none =>
      if isLinkLocal groups && scope = 0 then some (.number 22)
      else if isLinkLocal groups && scope ≠ 1 then some (.number 19)
      else if groups.head? = some 0 && host.isUp && groups = [0, 0, 0, 0, 0, 0, 0, 1] then none
      else if (groups.head?.getD 0) &&& 0xFF00 = 0xFF00 then none
      else some Os.addressNotAvailable

/-- Binds a socket; the answer is where it is bound. -/
def bind (host : Host) (endpoint : Endpoint) : Except Os.Failure Endpoint :=
  let isLow := endpoint.port ≠ 0 && endpoint.port < 1024 && !host.isPrivileged
  let bound := if endpoint.port = 0 then { endpoint with port := host.freePort } else endpoint
  match endpoint.address with
  | .v4 a b c d =>
    if !host.canBind4 a b c d then .error Os.addressNotAvailable
    else if isLow then .error Os.permissionDenied
    else .ok bound
  | .v6 groups =>
    if isLow then .error Os.permissionDenied
    else
      match host.refusal6? groups endpoint.scope with
      | some failure => .error failure
      | none => .ok bound

/-- Whether a client on the host reaches the server, which it does only while the server listens. -/
def connect (host : Host) (isListening : Bool) : Except Os.Failure Unit :=
  if !host.isUp then .error Os.networkUnreachable
  else if isListening then .ok ()
  else .error Os.connectionRefused

end Host

end LdapDecoy.Net
