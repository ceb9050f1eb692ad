import LdapDecoy.Event
import LdapDecoy.Fault
import LdapDecoy.Crypto.Edwards
import LdapDecoy.Tls.Curve.Description

/-!
# Keys

Private keys with their public halves, and how large a key must be. The size of an RSA key is that of its
modulus in whole octets; of an elliptic key the private number is measured.
-/
namespace LdapDecoy.Tls
open Asn1

inductive PublicKey where
  | rsa (modulus exponent : Nat)
  | elliptic (curve : Curve) (point : Point)
  /-- A key of an algorithm whose keys are not looked into. -/
  | other (algorithm key : Bytes)
  deriving DecidableEq, Repr

inductive PrivateKey where
  | rsa (modulus exponent : Nat)
  /-- The point is the public half, where it is given. -/
  | elliptic (curve : Curve) (scalar : Nat) (point : Option Point)
  /-- A key of an algorithm whose keys are not measured, with the octets that it is made of. -/
  | other (algorithm secret : Bytes)
  deriving DecidableEq, Repr

namespace PrivateKey

/-- The public half of a key of a kind with which a handshake can be made. -/
def public? : PrivateKey → Option PublicKey
  | rsa modulus exponent => some (.rsa modulus exponent)
  | elliptic curve scalar point => some (.elliptic curve (point.getD (curve.multiply scalar curve.base)))
  | other algorithm secret =>
    if algorithm = Algorithm.edwards then some (.other algorithm (Crypto.Edwards.publicHalf secret)) else none

/-- The least bits of an RSA modulus. -/
def rsaMinimum : Nat := 2048

/-- The least bits of an elliptic key's private number. -/
def ellipticMinimum : Nat := 224

/-- Whether a key is large enough, and what is logged about it. Keys of other kinds are not measured. -/
def check : PrivateKey → Except TlsFault Unit × List Event
  | rsa modulus _ =>
    let size := octetLength modulus
    if size < rsaMinimum / 8 then
      (.error (.weakKey s!"TLS RSA key is less than {rsaMinimum} bits!"), [])
    else
      let bits := size * 8
      (.ok (), [.plain .debug s!"The RSA private key size is: {bits} bits, that's OK!"])
  | elliptic _ scalar _ =>
    let bits := bitLength scalar
    if bits < ellipticMinimum then
      (.error (.weakKey s!"TLS EC key is less than {ellipticMinimum} bits! Got: {bits}"), [])
    else (.ok (), [.plain .debug s!"The EC private key size is: {bits} bits, that's OK!"])
  | other _ _ => (.ok (), [.plain .error "TLS key is not RSA or EC, cannot check minimums!"])

end PrivateKey

/-- How a file is read for a key: first every block is tried, and the numbers of a key must suit one another;
if that finds none, the first block that is named for a private key is taken as it is. -/
inductive Pass where
  | search
  | direct
  deriving DecidableEq, Repr

end LdapDecoy.Tls
