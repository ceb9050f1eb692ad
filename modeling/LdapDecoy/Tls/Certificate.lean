import LdapDecoy.Tls.Algorithm
import LdapDecoy.Tls.Key.Basic
import LdapDecoy.Tls.Name
import LdapDecoy.Tls.Pem

/-!
# Certificates

Certificates as PEM files hold them. Of a certificate only the form and the public key matter here; what it
says about its owner is the client's concern.
-/
namespace LdapDecoy.Tls
open Asn1 Asn1.Reader

namespace PublicKey

/-- The modulus and the exponent of an RSA key. -/
def rsaNumbers : Reader PublicKey := inSequence do
  let modulus ← magnitude
  let exponent ← magnitude
  return .rsa modulus exponent

/-- The key of an algorithm, if it is of a kind that is looked into. -/
def known? (algorithm : Algorithm) (key : Bytes) : Option PublicKey := do
  if algorithm.name = Algorithm.rsa then rsaNumbers.value? key
  else if algorithm.name = Algorithm.elliptic then
    let curve ← algorithm.curve?
    return .elliptic curve (← curve.decode? key)
  else none

/-- A public key with its algorithm in front. -/
def reader : Reader PublicKey := inSequence do
  let algorithm ← Algorithm.reader
  let key ← bits
  return (known? algorithm key).getD (.other algorithm.name key)

end PublicKey

structure Certificate where
  publicKey : PublicKey
  /-- The certificate as it is sent. -/
  encoded : Bytes
  deriving DecidableEq, Repr

namespace Certificate

/-- The first and the last moment at which a certificate counts. -/
def validity : Reader Unit := inSequence do
  time
  time

/-- Something more that a certificate says, and whether it must be understood. -/
def statement : Reader Unit := inSequence do
  let _ ← objectId
  let critical ← optional .boolean (whole .boolean)
  guard ((critical.getD [0]).length = 1)
  let _ ← octets

/-- What is signed: a version, the serial number, the algorithm, the issuer, the validity, the owner with its
key, and what may follow. -/
def signed : Reader PublicKey := inSequence do
  let _ ← optional (.field 0) (field 0 integer)
  let _ ← integer
  let _ ← Algorithm.reader
  DistinguishedName.reader
  validity
  DistinguishedName.reader
  let key ← PublicKey.reader
  let _ ← optional (.field 1) (bitsTagged (.field 1))
  let _ ← optional (.field 2) (bitsTagged (.field 2))
  let _ ← optional (.field 3) (field 3 (listOf .sequence statement))
  return key

/-- The public key in a certificate: what is signed, the algorithm, the signature. -/
def content : Reader PublicKey := inSequence do
  let key ← signed
  let _ ← Algorithm.reader
  let _ ← bits
  return key

/-- The certificate at the head of some octets. -/
def ofBytes? (octets : Bytes) : Option Certificate := do
  let (key, rest) ← content octets
  return ⟨key, octets.take (octets.length - rest.length)⟩

/-- The names of the blocks that hold certificates. -/
def blockNames : List Bytes := [Text.bytes "CERTIFICATE", Text.bytes "X509 CERTIFICATE"]

/-- The certificates in blocks; blocks of other names do not count. -/
def ofBlocks : List (Except Flaw Pem.Block) → Except Flaw (List Certificate)
  | [] => .ok []
  | .error flaw :: _ => .error flaw
  | .ok block :: rest =>
    if blockNames.contains block.name then
      if !block.header.isEmpty then .error .encryptedKey
      else
        match ofBytes? block.content with
        | none => .error .badStructure
        | some certificate => (ofBlocks rest).map (certificate :: ·)
    else ofBlocks rest

/-- The certificates in a PEM text. -/
def ofPem (text : Bytes) : Except Flaw (List Certificate) := ofBlocks (Pem.blocks text)

end Certificate

end LdapDecoy.Tls
