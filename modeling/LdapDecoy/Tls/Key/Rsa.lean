import LdapDecoy.Tls.Algorithm
import LdapDecoy.Tls.Key.Basic

/-!
# RSA keys

The numbers of an RSA key, and the parameters that bind one to a scheme of signatures.
-/
namespace LdapDecoy.Tls
open Asn1 Asn1.Reader

structure RsaKey where
  modulus : Nat
  exponent : Nat
  /-- The private exponent, the primes, and what is derived from them. -/
  secrets : List Nat
  deriving DecidableEq, Repr

namespace RsaKey

/-- A further prime, with its exponent and coefficient. -/
def furtherPrime : Reader (List Nat) := inSequence (exactly magnitude 3)

/-- A version, eight numbers, and further primes, which a key of version 1 must have. -/
def reader : Reader RsaKey := inSequence do
  let version ← small
  let modulus ← magnitude
  let exponent ← magnitude
  let secrets ← exactly magnitude 6
  let further := (← optional .sequence (listOf .sequence furtherPrime)).getD []
  guard (version ≠ 1 || !further.isEmpty)
  return ⟨modulus, exponent, secrets ++ further.flatten⟩

/-- Whether no other number is longer than the modulus. -/
def isSound (key : RsaKey) : Bool :=
  key.secrets.all fun n => bitLength n ≤ bitLength key.modulus

/-- The key at the head of some octets. -/
def private? (pass : Pass) (content : Bytes) : Option PrivateKey := do
  let key ← reader.value? content
  if pass = .direct || key.isSound then return .rsa key.modulus key.exponent else none

/-- A digest that is known. -/
def digest : Reader Unit := do
  let algorithm ← Algorithm.reader
  guard (Algorithm.digests.contains algorithm.name)

/-- A mask, whose parameter is the digest that it uses. -/
def mask : Reader Unit := do
  let algorithm ← Algorithm.reader
  guard (algorithm.name = Algorithm.mask)
  algorithm.sequenceIn? digest

/-- The parameters of one scheme: a digest, a mask, the length of the salt, the trailer. -/
def scheme : Reader Unit := inSequence do
  let _ ← optional (.field 0) (field 0 digest)
  let _ ← optional (.field 1) (field 1 mask)
  let _ ← optional (.field 2) (field 2 integer)
  let _ ← optional (.field 3) (field 3 integer)

/-- Whether parameters bind a key to no scheme, or to one that is known. -/
def hasScheme (algorithm : Algorithm) : Bool :=
  algorithm.parameters.isNone || (algorithm.sequenceIn? scheme).isSome

end RsaKey

end LdapDecoy.Tls
