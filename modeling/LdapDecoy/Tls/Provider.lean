import LdapDecoy.Os.Files
import LdapDecoy.Tls.Certificate
import LdapDecoy.Tls.Key.File
import LdapDecoy.Tls.Loopback

/-!
# Certificate providers

Where the server's certificate comes from: two PEM files, read anew for every handshake, or the loopback
pair. A file pair is taken only with a key that is large enough.
-/
namespace LdapDecoy.Tls

/-- A certificate with its intermediates and a key. -/
structure CertifiedKey where
  leaf : Certificate
  intermediates : List Certificate
  key : PrivateKey
  deriving DecidableEq, Repr

namespace CertifiedKey

/-- The pair in two PEM texts. -/
def ofPem (chain key : Bytes) : Except TlsFault CertifiedKey :=
  match Certificate.ofPem chain with
  | .error flaw => .error (.unusable flaw)
  | .ok [] => .error (.provider "certificate chain contains no certificates")
  | .ok (leaf :: intermediates) =>
    match PrivateKey.ofPem key with
    | .error flaw => .error (.unusable flaw)
    | .ok key => .ok ⟨leaf, intermediates, key⟩

def loopback : Except TlsFault CertifiedKey := ofPem Loopback.chain Loopback.key

/-- How many certificates the pair shows. -/
def chainLength (pair : CertifiedKey) : Nat := pair.intermediates.length + 1

/-- Whether the key belongs to the leaf, without which no handshake can begin. -/
def install (pair : CertifiedKey) : Except Flaw Unit :=
  if pair.key.public? = some pair.leaf.publicKey then .ok () else .error .keyMismatch

end CertifiedKey

/-- The files of a certificate chain and its key. -/
structure FileProvider where
  chain : String
  key : String
  deriving DecidableEq, Repr

def readFile (tree : Os.Files) (path : String) : Except TlsFault Bytes :=
  match tree.read path with
  | .error cause => .error (.read path cause)
  | .ok content => .ok content

namespace FileProvider

/-- The pair in the files, of any size. -/
def load (provider : FileProvider) (tree : Os.Files) : Except TlsFault CertifiedKey := do
  let chain ← readFile tree provider.chain
  let key ← readFile tree provider.key
  CertifiedKey.ofPem chain key

/-- The pair in the files, and what is logged about its key. -/
def certificate (provider : FileProvider) (tree : Os.Files) : Except TlsFault CertifiedKey × List Event :=
  match provider.load tree with
  | .error fault => (.error fault, [])
  | .ok pair =>
    match pair.key.check with
    | (.error fault, events) => (.error fault, events)
    | (.ok (), events) => (.ok pair, events)

end FileProvider

end LdapDecoy.Tls
