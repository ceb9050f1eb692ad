import LdapDecoy.Crypto.Field
import LdapDecoy.Crypto.Sha

/-!
# Edwards keys

The public half of a key on the curve `y² - x² = 1 + dx²y²` over the field of 2²⁵⁵ - 19. Points are fractions
with one denominator for both coordinates.
-/
namespace LdapDecoy.Crypto.Edwards

def modulus : Nat := (1 <<< 255) - 19

def field : Field := .prime modulus

/-- The number that makes the curve. -/
def coefficient : Nat := field.divide (modulus - 121665) 121666

structure Fraction where
  x : Nat
  y : Nat
  below : Nat
  deriving DecidableEq, Repr

def neutral : Fraction := ⟨0, 1, 1⟩

/-- The point with the second coordinate four fifths and an even first one. -/
def base : Fraction :=
  let y := field.divide 4 5
  let squared := field.square y
  let x := (field.root? (field.divide (field.subtract squared 1)
    (field.add (field.multiply coefficient squared) 1))).getD 0
  ⟨if x % 2 = 0 then x else field.negate x, y, 1⟩

def add (p q : Fraction) : Fraction :=
  let below := field.multiply p.below q.below
  let squared := field.square below
  let xx := field.multiply p.x q.x
  let yy := field.multiply p.y q.y
  let product := field.multiply coefficient (field.multiply xx yy)
  let less := field.subtract squared product
  let more := field.add squared product
  let crossed := field.subtract
    (field.subtract (field.multiply (field.add p.x p.y) (field.add q.x q.y)) xx) yy
  ⟨field.multiply below (field.multiply less crossed),
    field.multiply below (field.multiply more (field.add yy xx)), field.multiply less more⟩

/-- The point that adding a point to itself so many times comes to. -/
def multiply (scalar : Nat) (point : Fraction) : Fraction :=
  foldBits (fun bit sum => if bit then add (add sum sum) point else add sum sum) neutral scalar

/-- The number that the digest of a secret gives, some of whose bits are fixed. -/
def scalar (secret : Bytes) : Nat :=
  let n := Asn1.natural ((sha512.hash secret).take 32).reverse
  (n % (1 <<< 254)) / 8 * 8 + (1 <<< 254)

/-- The octets of a point: the second coordinate, and a bit of the first. -/
def encode (point : Fraction) : Bytes :=
  let x := field.divide point.x point.below
  let y := field.divide point.y point.below
  (octetsOf (y + ((x % 2) <<< 255)) 32).reverse

def publicHalf (secret : Bytes) : Bytes := encode (multiply (scalar secret) base)

end LdapDecoy.Crypto.Edwards
