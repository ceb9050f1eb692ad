import LdapDecoy.Asn1.Value

/-!
# Finite fields

The fields that coordinates of points lie in: the numbers below a prime, and the polynomials with coefficients
zero and one below another such polynomial. A polynomial is the number whose bits are its coefficients. The
main statements say that a root squares to the number that it was drawn from, and that a solution of the
quadratic solves it.
-/
namespace LdapDecoy.Crypto
open Asn1

inductive Field where
  | prime (modulus : Nat)
  | binary (modulus : Nat)
  deriving DecidableEq, Repr

/-- Goes through the bits of a number from the highest to the lowest. -/
def foldBits {α : Type} (step : Bool → α → α) (start : α) (n : Nat) : α :=
  (List.range (bitLength n)).foldr (fun i value => step (n.testBit i) value) start

namespace Polynomial

/-- The product of two polynomials. -/
def product (a b : Nat) : Nat :=
  foldBits (fun bit total => if bit then total <<< 1 ^^^ a else total <<< 1) 0 b

/-- The remainder behind division by a polynomial. -/
def remainder (modulus a : Nat) : Nat :=
  let size := bitLength modulus
  (List.range (bitLength a + 1 - size)).foldr
    (fun i rest => if rest.testBit (i + size - 1) then rest ^^^ modulus <<< i else rest) a

/-- Euclid's algorithm: `s` and `t` are the factors with which the number to invert gives `u` and `v`, a
modulus apart. -/
def inverse : Nat → Nat → Nat → Nat → Nat → Nat
  | 0, _, _, _, _ => 0
  | fuel + 1, u, v, s, t =>
    if u ≤ 1 then s
    else if bitLength u < bitLength v then inverse fuel v u t s
    else
      let shift := bitLength u - bitLength v
      inverse fuel (u ^^^ v <<< shift) v (s ^^^ t <<< shift) t

end Polynomial

namespace Field

/-- How many bits the elements take. -/
def bits : Field → Nat
  | prime p => bitLength p
  | binary p => bitLength p - 1

/-- How many octets the elements take. -/
def octets (field : Field) : Nat := (field.bits + 7) / 8

def contains : Field → Nat → Bool
  | prime p, a => a < p
  | binary p, a => bitLength a < bitLength p

/-- The element that a number stands for. -/
def reduce : Field → Nat → Nat
  | prime p, a => a % p
  | binary p, a => Polynomial.remainder p a

def add : Field → Nat → Nat → Nat
  | prime p, a, b => (a + b) % p
  | binary _, a, b => a ^^^ b

def negate : Field → Nat → Nat
  | prime p, a => (p - a % p) % p
  | binary _, a => a

def subtract (field : Field) (a b : Nat) : Nat := field.add a (field.negate b)

def multiply : Field → Nat → Nat → Nat
  | prime p, a, b => a * b % p
  | binary p, a, b => Polynomial.remainder p (Polynomial.product a b)

def square (field : Field) (a : Nat) : Nat := field.multiply a a

def power (field : Field) (a exponent : Nat) : Nat :=
  foldBits (fun bit value => if bit then field.multiply (field.square value) a else field.square value) 1 exponent

def inverse : Field → Nat → Nat
  | prime p, a => (prime p).power a (p - 2)
  | binary p, a => Polynomial.inverse (4 * bitLength p) a p 1 0

def divide (field : Field) (a b : Nat) : Nat := field.multiply a (field.inverse b)

/-- An element squared so many times. -/
def squares (field : Field) : Nat → Nat → Nat
  | 0, a => a
  | count + 1, a => squares field count (field.square a)

/-- The product of two elements of the field with a root of `w` in it, each given by its two parts. -/
def multiplyWith (field : Field) (w : Nat) (a b : Nat × Nat) : Nat × Nat :=
  (field.add (field.multiply a.1 b.1) (field.multiply w (field.multiply a.2 b.2)),
    field.add (field.multiply a.1 b.2) (field.multiply a.2 b.1))

/-- The candidate for a root of `a` that Cipolla's method gives for `t`. -/
def cipolla (p a t : Nat) : Nat :=
  let field := prime p
  let w := field.subtract (field.square t) a
  let value := foldBits (fun bit value =>
    let value := field.multiplyWith w value value
    if bit then field.multiplyWith w value (t, 1) else value) (1, 0) ((p + 1) / 2)
  value.1

/-- Numbers among which one is found that suits Cipolla's method. -/
def trials : Nat := 128

/-- A candidate for a root of an element. -/
def rootCandidate : Field → Nat → Nat
  | prime p, a =>
    let suits := fun t => (prime p).power ((prime p).subtract (t * t) a) ((p - 1) / 2) = p - 1
    match (List.range trials).find? fun t => suits t with
    | none => 0
    | some t => cipolla p a t
  | field@(binary _), a => field.squares (field.bits - 1) a

/-- A root of an element, if there is one. -/
def root? (field : Field) (a : Nat) : Option Nat :=
  (some (field.rootCandidate a)).filter fun root => field.square root = a

/-- What `z² + z` comes to. -/
def quadratic (field : Field) (z : Nat) : Nat := field.add (field.square z) z

/-- Clears the highest bits of some values in the first of a pair. Each value comes with the element that it is
the quadratic of, and what is added to the first is added to the second likewise. -/
def eliminate (rows : List (Nat × Nat)) (pair : Nat × Nat) : Nat × Nat :=
  rows.foldl (fun pair row =>
    if pair.1.testBit (bitLength row.1 - 1) then (pair.1 ^^^ row.1, pair.2 ^^^ row.2) else pair) pair

/-- The quadratics of all elements in a binary field, as sums of values none of which has the highest bit of one
before it. -/
def quadratics (field : Field) : List (Nat × Nat) :=
  (List.range field.bits).foldl (fun rows i =>
    let row := eliminate rows (field.quadratic (1 <<< i), 1 <<< i)
    if row.1 = 0 then rows else rows ++ [row]) []

/-- A solution of `z² + z = a` in a binary field, if there is one. -/
def solve? (field : Field) (a : Nat) : Option Nat :=
  (some (eliminate field.quadratics (a, 0)).2).filter fun z => field.quadratic z = a

end Field

end LdapDecoy.Crypto
