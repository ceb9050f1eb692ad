import LdapDecoy.Crypto.Aes
import LdapDecoy.Crypto.Sha
import LdapDecoy.Tls.Algorithm

/-!
# Locked keys

A key that is enciphered with a key that comes from a password. There is nobody to ask for a password, so only
what is locked with the empty one opens.
-/
namespace LdapDecoy.Tls
open Asn1 Asn1.Reader Crypto

structure LockedKey where
  algorithm : Algorithm
  content : Bytes
  deriving DecidableEq, Repr

namespace LockedKey

def reader : Reader LockedKey := inSequence do
  let algorithm ← Algorithm.reader
  return ⟨algorithm, ← octets⟩

/-- The scheme of a derivation and a cipher. -/
def scheme : Bytes := Ber.ObjectId.encode [1, 2, 840, 113549, 1, 5, 13]

/-- The derivation of a key from a password. -/
def derivation : Bytes := Ber.ObjectId.encode [1, 2, 840, 113549, 1, 5, 12]

/-- Ciphers, with how many octets a key has. -/
def ciphers : List (Bytes × Nat) :=
  [(2, 16), (22, 24), (42, 32)].map fun (arc, size) =>
    (Ber.ObjectId.encode [2, 16, 840, 1, 101, 3, 4, 1, arc], size)

/-- Digests with a key, by their names. -/
def digests : List (Bytes × Digest) :=
  [(7, sha1), (8, sha224), (9, sha256), (10, sha384), (11, sha512)].map fun (arc, digest) =>
    (Ber.ObjectId.encode [1, 2, 840, 113549, 2, arc], digest)

/-- One more than the most repetitions. -/
def repetitionLimit : Nat := 0x80000000

/-- The key of a size that comes from a password, by salt, repetitions, and a digest that can be left out. -/
def derived (password : Bytes) (size : Nat) : Reader Bytes := inSequence do
  let salt ← octets
  let repetitions ← integer
  let given ← optional .integer integer
  let name ← optional .sequence Algorithm.reader
  guard (0 < repetitions && repetitions < repetitionLimit && given.all (· = (size : Int)))
  let digest ←
    match name with
    | none => pure sha1
    | some algorithm => digests.lookup algorithm.name
  return (KeyedDigest.ofKey digest password).derive salt repetitions.toNat size

/-- What stands before the first block; zeros, if that is left out. -/
def before? (cipher : Algorithm) : Option Bytes :=
  match cipher.parameters with
  | none => some (List.replicate 16 0)
  | some found => if found.tag = .octetString && found.octets.length = 16 then some found.octets else none

/-- The derivation and the cipher of a key that is locked by the scheme. -/
def steps? (key : LockedKey) : Option (Algorithm × Algorithm) := do
  if key.algorithm.name ≠ scheme then none
  let steps ← key.algorithm.sequenceIn? <| inSequence do
    let kind ← Algorithm.reader
    return (kind, ← Algorithm.reader)
  if steps.1.name = derivation then some steps else none

/-- Whether a key is locked by the scheme, but with a cipher that is not known. -/
def isStrange (key : LockedKey) : Bool := key.steps?.any fun steps => (ciphers.lookup steps.2.name).isNone

/-- What is enciphered, if a password opens it. -/
def unlock? (password : Bytes) (key : LockedKey) : Option Bytes := do
  let (kind, cipher) ← key.steps?
  let size ← ciphers.lookup cipher.name
  let secret ← kind.sequenceIn? (derived password size)
  Aes.decipher? secret (← before? cipher) key.content

end LockedKey

end LdapDecoy.Tls
