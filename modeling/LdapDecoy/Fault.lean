import LdapDecoy.Json.Scan
import LdapDecoy.Os.Failure
import LdapDecoy.Text.Quoted

/-!
# Faults

The causes for which an operation of the program fails, and how each one reads. Faults of TLS and of
storage that stop the start are shown as they are.
-/
namespace LdapDecoy

/-- What is wrong with key material, or with a client's side of a handshake. -/
inductive Tls.Flaw where
  | badArmour
  | badBase64
  | badStructure
  | noKey
  | encryptedKey
  | unknownKey
  | keyMismatch
  | noHello
  | noSharedVersion
  deriving DecidableEq, Repr

def Tls.Flaw.message : Tls.Flaw → String
  | .badArmour => "bad end line"
  | .badBase64 => "bad base64 decode"
  | .badStructure => "wrong tag or length"
  | .noKey => "no start line"
  | .encryptedKey => "no password for an encrypted key"
  | .unknownKey => "unsupported key"
  | .keyMismatch => "key values mismatch"
  | .noHello => "no handshake record"
  | .noSharedVersion => "unsupported protocol"

inductive TlsFault where
  /-- Certificates or a key that cannot be read or installed. -/
  | unusable (flaw : Tls.Flaw)
  | handshake (flaw : Tls.Flaw)
  | provider (text : String)
  | read (path : String) (cause : Os.Failure)
  | weakKey (text : String)
  | alreadyEncrypted
  | transportUnavailable
  deriving DecidableEq, Repr

def TlsFault.message : TlsFault → String
  | .unusable flaw => "openssl: " ++ flaw.message
  | .handshake flaw => flaw.message
  | .provider text => "certificate provider: " ++ text
  | .read path cause => "unable to read " ++ path ++ ": " ++ cause.message
  | .weakKey text => "tls key rejected: " ++ text
  | .alreadyEncrypted => "connection is already using tls"
  | .transportUnavailable => "connection transport is unavailable"

inductive StorageFault where
  | system (cause : Os.Failure)
  | encode (cause : Json.Fault)
  | unavailable (text : String)
  deriving DecidableEq, Repr

def StorageFault.message : StorageFault → String
  | .system cause => "storage i/o failure: " ++ cause.message
  | .encode cause => "unable to encode storage entry: " ++ cause.message
  | .unavailable text => "storage unavailable: " ++ text

/-- Why a single client can no longer be written to or read from. -/
inductive SessionFault where
  | codec (text : String)
  /-- A complete message that is not valid; the next one can still be read. -/
  | malformed (text : String)
  | transportUnavailable
  deriving DecidableEq, Repr

def SessionFault.message : SessionFault → String
  | .codec text => "ldap codec: " ++ text
  | .malformed text => "malformed ldap message: " ++ text
  | .transportUnavailable => "connection transport is unavailable"

/-- Why the server does not start. -/
inductive StartFault where
  | invalidConfiguration (text : String)
  /-- A domain whose matcher would take more than `limit` octets. -/
  | invalidDomain (domain : String) (limit : Nat)
  | bind (address : String) (cause : Os.Failure)
  | tls (fault : TlsFault)
  | storage (fault : StorageFault)
  deriving DecidableEq, Repr

def StartFault.message : StartFault → String
  | .invalidConfiguration text => "invalid configuration: " ++ text
  | .invalidDomain domain limit =>
    "invalid correlation domain " ++ Text.quoted domain ++
      s!": Compiled regex exceeds size limit of {limit} bytes."
  | .bind address cause => "unable to bind ldap listener on " ++ address ++ ": " ++ cause.message
  | .tls fault => fault.message
  | .storage fault => fault.message

end LdapDecoy
