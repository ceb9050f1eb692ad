import LdapDecoy.Asn1.Header

/-!
# Digests

What digests have in common. A text is filled up to whole blocks, at the end of which its length stands, and
the words of each block change a state in turn. A key can be put in front of the text, twice over, and
repeated use of that makes keys out of passwords.
-/
namespace LdapDecoy.Crypto

/-- The octets of a number, so many of them. -/
def octetsOf (n : Nat) : Nat → Bytes
  | 0 => []
  | count + 1 => UInt8.ofNat (n >>> (8 * count)) :: octetsOf n count

/-- So many parts of a text, each of the same size. -/
def parts (size : Nat) : Nat → Bytes → List Bytes
  | 0, _ => []
  | count + 1, s => s.take size :: parts size count (s.drop size)

/-- A number of so many bits, turned to the right. -/
def turnRight (bits n count : Nat) : Nat := n >>> count ||| n <<< (bits - count) % (1 <<< bits)

/-- The sum of numbers of so many bits. -/
def sum (bits : Nat) (numbers : List Nat) : Nat := numbers.foldl (· + ·) 0 % (1 <<< bits)

structure Digest where
  /-- How many octets a word has; a block has sixteen words, and the length takes two. -/
  wordSize : Nat
  start : List Nat
  /-- The state behind a block of words. -/
  compress : List Nat → List Nat → List Nat
  /-- How many octets the digest has. -/
  size : Nat

namespace Digest

def blockSize (digest : Digest) : Nat := 16 * digest.wordSize

/-- What fills up a text of so many octets. -/
def filling (digest : Digest) (length : Nat) : Bytes :=
  let used := length + 1 + 2 * digest.wordSize
  0x80 :: List.replicate ((digest.blockSize - used % digest.blockSize) % digest.blockSize) 0 ++
    octetsOf (8 * length) (2 * digest.wordSize)

/-- The state behind whole blocks. -/
def absorb (digest : Digest) (state : List Nat) (s : Bytes) : List Nat :=
  (parts digest.blockSize (s.length / digest.blockSize) s).foldl
    (fun state block => digest.compress state ((parts digest.wordSize 16 block).map Asn1.natural)) state

/-- The digest of a text behind whole blocks of so many octets, which have led to a state. -/
def finish (digest : Digest) (state : List Nat) (before : Nat) (s : Bytes) : Bytes :=
  let last := digest.absorb state (s ++ digest.filling (before + s.length))
  (last.flatMap fun word => octetsOf word digest.wordSize).take digest.size

def hash (digest : Digest) (s : Bytes) : Bytes := digest.finish digest.start 0 s

end Digest

/-- A digest with a key: the states behind the key in its two forms. -/
structure KeyedDigest where
  digest : Digest
  inner : List Nat
  outer : List Nat

namespace KeyedDigest

def ofKey (digest : Digest) (key : Bytes) : KeyedDigest :=
  let short := if digest.blockSize < key.length then digest.hash key else key
  let block := short ++ List.replicate (digest.blockSize - short.length) 0
  let stateOf := fun mark => digest.absorb digest.start (block.map (· ^^^ mark))
  ⟨digest, stateOf 0x36, stateOf 0x5C⟩

def hash (keyed : KeyedDigest) (s : Bytes) : Bytes :=
  let size := keyed.digest.blockSize
  keyed.digest.finish keyed.outer size (keyed.digest.finish keyed.inner size s)

def exclusiveOr (a b : Bytes) : Bytes := List.zipWith (· ^^^ ·) a b

/-- Repeats the digest of the last value, and joins all values. -/
def repeated (keyed : KeyedDigest) : Nat → Bytes → Bytes → Bytes
  | 0, _, total => total
  | count + 1, last, total =>
    let next := keyed.hash last
    repeated keyed count next (exclusiveOr total next)

/-- So many octets of key out of a salt, with so many repetitions. -/
def derive (keyed : KeyedDigest) (salt : Bytes) (repetitions size : Nat) : Bytes :=
  let part := fun i =>
    let first := keyed.hash (salt ++ octetsOf (i + 1) 4)
    keyed.repeated (repetitions - 1) first first
  ((List.range ((size + keyed.digest.size - 1) / keyed.digest.size)).flatMap part).take size

end KeyedDigest

end LdapDecoy.Crypto
