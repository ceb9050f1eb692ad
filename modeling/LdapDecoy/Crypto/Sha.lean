import LdapDecoy.Crypto.Digest
import LdapDecoy.Asn1.Value

/-!
# Secure hashes

The digest with words of 32 bits and five words of state, and the family with words of 32 or 64 bits and eight
words of state, whose constants are drawn from the roots of the first primes.
-/
namespace LdapDecoy.Crypto

/-- The largest number whose square, or cube, is not larger than another. -/
def rootBelow (power : Nat → Nat) (n : Nat) : Nat :=
  (List.range (Asn1.bitLength n)).foldr (fun i root =>
    let next := root + 1 <<< i
    if power next ≤ n then next else root) 0

def isPrime (n : Nat) : Bool := 2 ≤ n && (List.range n).all fun d => d < 2 || n % d ≠ 0

/-- As many primes as there are rounds at most. -/
def primes : List Nat := (List.range 410).filter isPrime

/-- So many bits of the square roots of primes, behind the point. -/
def squareRoots (bits : Nat) (primes : List Nat) : List Nat :=
  primes.map fun p => rootBelow (fun n => n * n) (p <<< (2 * bits)) % (1 <<< bits)

/-- So many bits of the cube roots of primes, behind the point. -/
def cubeRoots (bits : Nat) (primes : List Nat) : List Nat :=
  primes.map fun p => rootBelow (fun n => n * n * n) (p <<< (3 * bits)) % (1 <<< bits)

namespace Sha1

/-- How the words of the state mix in a round, with the constant of the round. -/
def mixed (round b c d : Nat) : Nat × Nat :=
  if round < 20 then (b &&& c ^^^ (0xFFFFFFFF ^^^ b) &&& d, 0x5A827999)
  else if round < 40 then (b ^^^ c ^^^ d, 0x6ED9EBA1)
  else if round < 60 then (b &&& c ^^^ b &&& d ^^^ c &&& d, 0x8F1BBCDC)
  else (b ^^^ c ^^^ d, 0xCA62C1D6)

/-- The words of all rounds. -/
def schedule (block : List Nat) : Array Nat :=
  (List.range 64).foldl (fun words _ =>
    let word := fun i => words.getD (words.size - i) 0
    words.push (turnRight 32 (word 3 ^^^ word 8 ^^^ word 14 ^^^ word 16) 31)) block.toArray

def round (state : List Nat) (word : Nat × Nat) : List Nat :=
  match state with
  | [a, b, c, d, e] =>
    let (mix, constant) := mixed word.2 b c d
    [sum 32 [turnRight 32 a 27, mix, e, constant, word.1], a, turnRight 32 b 2, c, d]
  | _ => state

def compress (state block : List Nat) : List Nat :=
  List.zipWith (fun a b => sum 32 [a, b]) state ((schedule block).toList.zipIdx.foldl round state)

end Sha1

def sha1 : Digest :=
  ⟨4, [0x67452301, 0xEFCDAB89, 0x98BADCFE, 0x10325476, 0xC3D2E1F0], Sha1.compress, 20⟩

/-- What sets the two word sizes of a family apart: how far words are turned in its four functions. The last
number of `near` and of `far` is that of a shift. -/
structure Sha2 where
  bits : Nat
  constants : List Nat
  first : List Nat
  second : List Nat
  near : List Nat × Nat
  far : List Nat × Nat

namespace Sha2

/-- A word turned by some counts, the results joined. -/
def turned (family : Sha2) (counts : List Nat) (word : Nat) : Nat :=
  counts.foldl (fun total count => total ^^^ turnRight family.bits word count) 0

/-- A word turned by some counts and shifted by one, the results joined. -/
def spread (family : Sha2) (counts : List Nat × Nat) (word : Nat) : Nat :=
  family.turned counts.1 word ^^^ word >>> counts.2

/-- The words of all rounds. -/
def schedule (family : Sha2) (block : List Nat) : Array Nat :=
  (family.constants.drop 16).foldl (fun words _ =>
    let word := fun i => words.getD (words.size - i) 0
    words.push (sum family.bits
      [family.spread family.far (word 2), word 7, family.spread family.near (word 15), word 16])) block.toArray

def round (family : Sha2) (state : List Nat) (word : Nat × Nat) : List Nat :=
  match state with
  | [a, b, c, d, e, f, g, h] =>
    let choice := e &&& f ^^^ ((1 <<< family.bits - 1) ^^^ e) &&& g
    let majority := a &&& b ^^^ a &&& c ^^^ b &&& c
    let first := sum family.bits [h, family.turned family.second e, choice, word.1, word.2]
    [sum family.bits [first, family.turned family.first a, majority], a, b, c, sum family.bits [d, first], e, f, g]
  | _ => state

def compress (family : Sha2) (state block : List Nat) : List Nat :=
  let rounds := (family.constants.zip (family.schedule block).toList).foldl family.round state
  List.zipWith (fun a b => sum family.bits [a, b]) state rounds

/-- The family with words of 32 bits. -/
def short : Sha2 :=
  ⟨32, cubeRoots 32 (primes.take 64), [2, 13, 22], [6, 11, 25], ([7, 18], 3), ([17, 19], 10)⟩

/-- The family with words of 64 bits. -/
def long : Sha2 :=
  ⟨64, cubeRoots 64 (primes.take 80), [28, 34, 39], [14, 18, 41], ([1, 8], 7), ([19, 61], 6)⟩

end Sha2

def sha224 : Digest :=
  ⟨4, (squareRoots 64 ((primes.drop 8).take 8)).map (· % (1 <<< 32)), Sha2.short.compress, 28⟩

def sha256 : Digest := ⟨4, squareRoots 32 (primes.take 8), Sha2.short.compress, 32⟩

def sha384 : Digest := ⟨8, squareRoots 64 ((primes.drop 8).take 8), Sha2.long.compress, 48⟩

def sha512 : Digest := ⟨8, squareRoots 64 (primes.take 8), Sha2.long.compress, 64⟩

end LdapDecoy.Crypto
