import LdapDecoy.Tls.Algorithm
import LdapDecoy.Tls.Key.Basic

/-!
# Elliptic keys

An elliptic key is a number, with its curve and the point that is its public half where they are given.
-/
namespace LdapDecoy.Tls
open Asn1 Asn1.Reader

structure EllipticKey where
  curve : Curve
  scalar : Nat
  point : Option Point
  deriving DecidableEq, Repr

namespace EllipticKey

/-- A version, the number, the curve, and the public half. The curve in a key comes before the one that is
known beforehand. -/
def reader (known : Option Curve) : Reader EllipticKey := inSequence do
  let _ ← small
  let scalar ← octets
  let given ← optional (.field 0) (field 0 Curve.parameters)
  let octets ← optional (.field 1) (field 1 bits)
  let curve ← given <|> known
  match octets with
  | none => return ⟨curve, natural scalar, none⟩
  | some octets => return ⟨curve, natural scalar, some (← curve.decode? octets)⟩

/-- Whether a key is one whose number is measured: on a usual curve, with a public half, and with a number that
takes no more octets than the order. -/
def isMeasured (key : EllipticKey) : Bool :=
  !key.curve.isApart && key.point ≠ some .neutral &&
    octetLength key.scalar ≤ octetLength key.curve.order

/-- A key on any curve. In a search one that was said to be on the curve whose keys are of a kind of their own
must be on it. -/
def private? (pass : Pass) (known : Option Curve) (content : Bytes) : Option PrivateKey := do
  let key ← (reader known).value? content
  let measured : PrivateKey := .elliptic key.curve key.scalar key.point
  match pass with
  | .direct => return measured
  | .search =>
    if known.any Curve.isApart && !key.curve.isApart then none
    else if key.isMeasured then return measured
    else return .other Algorithm.elliptic content

/-- A key on the curve whose keys are of a kind of their own. -/
def apart? (known : Option Curve) (content : Bytes) : Option PrivateKey := do
  let key ← (reader known).value? content
  if key.curve.isApart then return .other Algorithm.apart content else none

end EllipticKey

end LdapDecoy.Tls
