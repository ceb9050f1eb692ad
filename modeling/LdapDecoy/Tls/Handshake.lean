import LdapDecoy.Tls.Provider

/-!
# Handshakes

The server's side of a handshake as far as it can be seen: how much of what comes it takes for a record, which pair
it shows, and which protocol version the two sides agree on. The server is permissive: it takes every version up to
TLS 1.2.
-/
namespace LdapDecoy.Tls

/-! ## Records -/

/-- How many octets a server reads to see whether a record begins. -/
def recordHeader : Nat := 5

/-- The most octets that a record has behind its header. -/
def recordLimit : Nat := 0x4000

/-- How many octets a server takes when some come in the place of a hello: all of a record, if their header announces
one of protocol version 3, and the header alone otherwise. -/
def recordSize : Bytes → Nat
  | _ :: major :: _ :: high :: low :: _ =>
    let announced := high.toNat * 256 + low.toNat
    if major = 3 ∧ announced ≤ recordLimit then recordHeader + announced else recordHeader
  | _ => recordHeader

/-! ## Versions -/

inductive Version where
  | tls10
  | tls11
  | tls12
  | tls13
  deriving DecidableEq, Repr

namespace Version

def rank : Version → Nat
  | tls10 => 0
  | tls11 => 1
  | tls12 => 2
  | tls13 => 3

def name : Version → String
  | tls10 => "TLSv1"
  | tls11 => "TLSv1.1"
  | tls12 => "TLSv1.2"
  | tls13 => "TLSv1.3"

def lower (a b : Version) : Version := if a.rank ≤ b.rank then a else b

/-- The highest version that the server takes. -/
def highest : Version := tls12

end Version

/-- The versions that a client offers. -/
structure Hello where
  least : Option Version
  most : Option Version
  deriving DecidableEq, Repr

/-- The version that both sides agree on: the highest that both take. -/
def Hello.agree (hello : Hello) : Option Version :=
  let version := Version.lower Version.highest (hello.most.getD .tls13)
  if (hello.least.getD .tls10).rank ≤ version.rank then some version else none

/-- Whether a handshake in a version can be made with a key: with one on a curve that clients take, or with one
of a kind that the version knows. -/
def PrivateKey.serves (key : PrivateKey) (version : Version) : Bool :=
  match key with
  | .rsa _ _ => true
  | .elliptic curve _ _ => NamedCurve.usual.contains curve
  | .other _ _ => version = .tls12

/-- The version that both sides agree on, if a handshake in it can be made with the pair. -/
def CertifiedKey.agree (pair : CertifiedKey) (hello : Hello) : Option Version :=
  hello.agree.filter pair.key.serves

/-! ## Pairs -/

/-- How the server upgrades connections: its provider, if it has one, and the loopback pair. -/
structure Upgrader where
  provider : Option FileProvider
  loopback : CertifiedKey
  deriving DecidableEq, Repr

namespace Upgrader

/-- The pair to show: the provider's, or the loopback pair where there is none or it fails. -/
def select (upgrader : Upgrader) (tree : Os.Files) : CertifiedKey × List Event :=
  match upgrader.provider with
  | none => (upgrader.loopback, [])
  | some provider =>
    match provider.certificate tree with
    | (.ok pair, events) => (pair, events)
    | (.error _, events) =>
      (upgrader.loopback, events ++
        [.tagged .securityError "Certificate provider failed, using the loopback certificate"])

/-- The pair that is ready to be shown; a key of another certificate is a fault before any octet is read. -/
def acceptor (upgrader : Upgrader) (tree : Os.Files) : Except TlsFault CertifiedKey × List Event :=
  let (pair, events) := upgrader.select tree
  match pair.install with
  | .error flaw => (.error (.unusable flaw), events)
  | .ok () => (.ok pair, events)

end Upgrader

end LdapDecoy.Tls
