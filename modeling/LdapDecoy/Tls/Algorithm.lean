import LdapDecoy.Asn1.Value
import LdapDecoy.Ber.ObjectId

/-!
# Algorithms

The names of algorithms in certificates and keys, and what parameters stand with them.
-/
namespace LdapDecoy.Tls
open Asn1 Asn1.Reader

/-- An algorithm: the content of its object identifier, and its parameters. -/
structure Algorithm where
  name : Bytes
  parameters : Option Any
  deriving DecidableEq, Repr

namespace Algorithm

def reader : Reader Algorithm := inSequence do
  let name ← objectId
  return ⟨name, ← unlessDone any⟩

/-- What a reader gets from parameters that are a sequence. -/
def sequenceIn? {α : Type} (algorithm : Algorithm) (reader : Reader α) : Option α := do
  let parameters ← algorithm.parameters
  if parameters.tag = .sequence then reader.value? parameters.octets else none

def rsa : Bytes := Ber.ObjectId.encode [1, 2, 840, 113549, 1, 1, 1]

/-- RSA keys that are for signatures of one scheme only. -/
def rsaPss : Bytes := Ber.ObjectId.encode [1, 2, 840, 113549, 1, 1, 10]

def elliptic : Bytes := Ber.ObjectId.encode [1, 2, 840, 10045, 2, 1]

/-- Keys on the curve whose keys are of a kind of their own. -/
def apart : Bytes := Ber.ObjectId.encode [1, 2, 156, 10197, 1, 301]

def dsa : Bytes := Ber.ObjectId.encode [1, 2, 840, 10040, 4, 1]

def diffieHellman : Bytes := Ber.ObjectId.encode [1, 2, 840, 113549, 1, 3, 1]

/-- Diffie-Hellman keys whose parameters give the order of the group too. -/
def diffieHellmanOrder : Bytes := Ber.ObjectId.encode [1, 2, 840, 10046, 2, 1]

/-- Keys for signatures on an Edwards curve. -/
def edwards : Bytes := Ber.ObjectId.encode [1, 3, 101, 112]

/-- Algorithms whose keys are octets, with how many there are. -/
def sized : List (Bytes × Nat) :=
  (edwards, 32) :: [(110, 32), (111, 56), (113, 57)].map fun (arc, size) =>
    (Ber.ObjectId.encode [1, 3, 101, arc], size)

/-- The function that masks an RSA signature, by a digest. -/
def mask : Bytes := Ber.ObjectId.encode [1, 2, 840, 113549, 1, 1, 8]

/-- Digests, and signatures that are known by theirs. -/
def digests : List Bytes :=
  ([[1, 0, 10118, 3, 0, 55], [1, 2, 156, 10197, 1, 401], [1, 2, 156, 10197, 1, 504],
    [1, 2, 840, 113549, 2, 4], [1, 2, 840, 113549, 2, 5], [1, 3, 14, 3, 2, 26], [1, 3, 14, 3, 2, 29],
    [1, 3, 36, 3, 2, 1], [1, 3, 36, 3, 3, 1, 2], [1, 3, 6, 1, 4, 1, 1722, 12, 2, 1, 16],
    [1, 3, 6, 1, 4, 1, 1722, 12, 2, 2, 8], [2, 5, 8, 3, 100], [2, 5, 8, 3, 101]] ++
    [3, 4, 5, 11, 12, 13, 14, 15, 16].map ([1, 2, 840, 113549, 1, 1, ·]) ++
    [1, 2, 3, 4, 5, 6, 7, 8, 9, 10, 11, 12].map ([2, 16, 840, 1, 101, 3, 4, 2, ·]) ++
    [13, 14, 15, 16].map ([2, 16, 840, 1, 101, 3, 4, 3, ·])).map Ber.ObjectId.encode

end Algorithm

end LdapDecoy.Tls
