import LdapDecoy.Tls.Algorithm
import LdapDecoy.Tls.Key.Basic

/-!
# Keys that are not measured

Keys of other kinds, whose form alone is checked: those for discrete logarithms, and those that are octets of
a fixed number.
-/
namespace LdapDecoy.Tls
open Asn1 Asn1.Reader

namespace UnmeasuredKey

/-- A key for signatures in a form of its own: a version and five numbers. -/
def dsa : Reader PrivateKey := inSequence do
  let _ ← small
  let _ ← exactly magnitude 5
  return .other Algorithm.dsa []

/-- The prime of a group for signatures, its order and its generator. -/
def dsaGroup : Reader Nat := inSequence do
  let prime ← magnitude
  let _ ← exactly magnitude 2
  return prime

/-- The prime of a group for agreements, and its generator; the length of the private number can follow. -/
def plainGroup : Reader Nat := inSequence do
  let prime ← magnitude
  let _ ← magnitude
  let _ ← optional .integer small
  return prime

/-- How a group was drawn: a seed and a counter. -/
def drawing : Reader Unit := inSequence do
  let _ ← bits
  let _ ← magnitude

/-- The prime of a group for agreements, its generator and its order; the cofactor and how the group was drawn
can follow. -/
def orderedGroup : Reader Nat := inSequence do
  let prime ← magnitude
  let _ ← exactly magnitude 2
  let _ ← optional .integer magnitude
  let _ ← optional .sequence drawing
  return prime

/-- Whether a number is odd, and its bits are in the bounds for a group. -/
def isGroupPrime (n : Nat) : Bool := n % 2 = 1 && 512 ≤ bitLength n && bitLength n ≤ 10000

/-- A key for signatures with its group as parameter. -/
def signature? (algorithm : Algorithm) (content : Bytes) : Option PrivateKey := do
  let prime ← algorithm.sequenceIn? dsaGroup
  let number ← integer.value? content
  if prime % 2 = 1 && 0 ≤ number then return .other algorithm.name content else none

/-- A key for agreements with its group as parameter. -/
def agreement? (algorithm : Algorithm) (group : Reader Nat) (content : Bytes) : Option PrivateKey := do
  let prime ← algorithm.sequenceIn? group
  let _ ← integer.value? content
  if isGroupPrime prime then return .other algorithm.name content else none

/-- A key that is octets of a fixed number, without parameters. -/
def sized? (algorithm : Algorithm) (size : Nat) (content : Bytes) : Option PrivateKey := do
  let key ← octets.value? content
  if algorithm.parameters.isNone && key.length = size then return .other algorithm.name key else none

end UnmeasuredKey

end LdapDecoy.Tls
