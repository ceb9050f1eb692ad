import LdapDecoy.Tls.Algorithm
import LdapDecoy.Tls.Curve.Named

/-!
# Described curves

The parameters of an elliptic key: the name of a curve, or its description by field, coefficients, base point
and order. A description counts only if it can be that of a curve.
-/
namespace LdapDecoy.Tls
open Asn1 Asn1.Reader Crypto

namespace Curve

def primeField : Bytes := Ber.ObjectId.encode [1, 2, 840, 10045, 1, 1]

def binaryField : Bytes := Ber.ObjectId.encode [1, 2, 840, 10045, 1, 2]

/-- A binary field whose polynomial has three terms. -/
def trinomialBasis : Bytes := Ber.ObjectId.encode [1, 2, 840, 10045, 1, 2, 3, 2]

/-- A binary field whose polynomial has five terms. -/
def pentanomialBasis : Bytes := Ber.ObjectId.encode [1, 2, 840, 10045, 1, 2, 3, 3]

/-- The most bits that the elements of a described field take. -/
def fieldLimit : Nat := 661

/-- The field of an odd number, which is taken for a prime. -/
def primeField? (p : Int) : Option Field :=
  let n := p.toNat
  if n % 2 = 1 && 2 < bitLength n && bitLength n ≤ fieldLimit then some (.prime n) else none

/-- The binary field of a polynomial, by the exponents of its terms between the first and the last. -/
def binaryField? (degree : Int) (exponents : List Int) : Option Field :=
  let terms := degree :: exponents ++ [0]
  if degree ≤ fieldLimit && (terms.zip terms.tail).all fun (a, b) => b < a then
    some (.binary (terms.foldl (fun total exponent => total + 1 <<< exponent.toNat) 0))
  else none

/-- The exponents between the first and the last of a polynomial, for a kind of basis. -/
def exponents (basis : Bytes) : Reader (List Int) := do
  if basis = trinomialBasis then return [← integer]
  else if basis = pentanomialBasis then
    inSequence do
      let low ← small
      let middle ← small
      let high ← small
      return [high, middle, low]
  else failure

/-- The parameter of a binary field: its degree, and the rest of its polynomial. -/
def polynomial : Reader Field := do
  let (degree, exponents) ← inSequence do
    let degree ← small
    let basis ← objectId
    return (degree, ← exponents basis)
  binaryField? degree exponents

def describedField : Reader Field := inSequence do
  let kind ← objectId
  if kind = primeField then
    let p ← integer
    primeField? p
  else if kind = binaryField then polynomial
  else failure

/-- The two coefficients, behind which the seed can stand that they were drawn from. -/
def coefficients : Reader (Nat × Nat) := inSequence do
  let a ← octets
  let b ← octets
  let seed ← optional .bitString bits
  guard (seed ≠ some [])
  return (natural a, natural b)

/-- The curve with an order, if the order suits its field. -/
def ofOrder? (field : Field) (a b : Nat) (base : Bytes) (order : Int) : Option Curve := do
  let curve : Curve := ⟨field, field.reduce a, field.reduce b, .neutral, order.toNat⟩
  let point ← curve.decode? base
  if point ≠ .neutral && 0 < order && bitLength order.toNat ≤ field.bits + 1 then
    some { curve with base := point }
  else none

def described : Reader Curve := inSequence do
  let _ ← small
  let field ← describedField
  let (a, b) ← coefficients
  let base ← octets
  let order ← integer
  let cofactor ← optional .integer integer
  guard (0 ≤ cofactor.getD 0)
  ofOrder? field a b base order

def named : Reader Curve := do
  let name ← objectId
  NamedCurve.find? name

/-- The curve that the parameters of a key name or describe. -/
def parameters : Reader Curve := do
  if ← comes .objectId then named else described

end Curve

/-- The curve that the parameters of an algorithm name or describe. -/
def Algorithm.curve? (algorithm : Algorithm) : Option Curve := do
  let parameters ← algorithm.parameters
  if parameters.tag = .objectId then NamedCurve.find? parameters.octets
  else algorithm.sequenceIn? Curve.described

end LdapDecoy.Tls
