import LdapDecoy.Asn1.Extent
import LdapDecoy.Tls.Key.Envelope
import LdapDecoy.Tls.Key.Locked
import LdapDecoy.Tls.Pem

/-!
# Files of keys

The private key in a PEM text. The blocks are searched for one that holds a key, in the form that suits its
name; if there is none, the first block with a name of a private key must hold one.
-/
namespace LdapDecoy.Tls
open Asn1 Asn1.Reader

namespace PrivateKey

/-- How the octets of a block are read. -/
abbrev Form := Bytes → Option PrivateKey

/-- A key in the form of its own algorithm, or in an envelope that names one of some algorithms. -/
def formOf (pass : Pass) (bare : Form) (names : List Bytes) : Form := fun content =>
  bare content <|> (Envelope.among? names content).bind (·.private? pass)

def rsaForm (pass : Pass) : Form := formOf pass (RsaKey.private? pass) [Algorithm.rsa]

def ellipticForm (pass : Pass) (names : List Bytes) : Form := formOf pass (EllipticKey.private? pass none) names

def dsaForm (pass : Pass) : Form := formOf pass UnmeasuredKey.dsa.value? [Algorithm.dsa]

/-- A key in an envelope of one algorithm. -/
def enclosedForm (name : Bytes) : Form := formOf .search (fun _ => none) [name]

/-- A key on the curve whose keys are of a kind of their own. -/
def apartForm : Form := fun content =>
  EllipticKey.apart? none content <|>
    (Envelope.among? [Algorithm.apart, Algorithm.elliptic] content).bind (·.apart?)

/-- A key in an envelope of any algorithm. -/
def anyForm (pass : Pass) : Form := fun content => (Envelope.reader.value? content).bind (·.private? pass)

/-- The forms in which blocks are searched, by their names. -/
def searched : List (String × Form) := [
  ("PRIVATE KEY", anyForm .search),
  ("ENCRYPTED PRIVATE KEY", anyForm .search),
  ("RSA PRIVATE KEY", rsaForm .search),
  ("RSA PUBLIC KEY", rsaForm .search),
  ("EC PRIVATE KEY", ellipticForm .search [Algorithm.elliptic]),
  ("EC PARAMETERS", ellipticForm .search [Algorithm.elliptic]),
  ("DSA PRIVATE KEY", dsaForm .search),
  ("DSA PUBLIC KEY", dsaForm .search),
  ("DSA PARAMETERS", dsaForm .search),
  ("DH PARAMETERS", enclosedForm Algorithm.diffieHellman),
  ("X9.42 DH PARAMETERS", enclosedForm Algorithm.diffieHellmanOrder),
  ("SM2 PRIVATE KEY", apartForm),
  ("SM2 PARAMETERS", apartForm)]

/-- The forms of blocks that are named for a private key of one algorithm. -/
def named : List (String × Form) := [
  ("RSA", rsaForm .direct),
  ("DSA", dsaForm .direct),
  ("EC", ellipticForm .direct [Algorithm.elliptic, Algorithm.apart])]

/-- What follows the algorithm in the name of a block. -/
def suffix : Bytes := Text.bytes " PRIVATE KEY"

/-- The name of the algorithm in the name of a block. -/
def algorithmIn? (name : Bytes) : Option String := do
  let reversed ← suffix.reverse.isPrefixOf? name.reverse
  (Text.ofBytes? reversed.reverse).map String.toUpper

/-- A key that was locked without a password. -/
def lockedForm : Form := fun content =>
  ((LockedKey.reader.value? content).bind (·.unlock? [])).bind (anyForm .direct)

/-- The form of a block that is named for a private key. -/
def namedForm? (name : Bytes) : Option Form :=
  if name = Text.bytes "PRIVATE KEY" then some (anyForm .direct)
  else if name = Text.bytes "ENCRYPTED PRIVATE KEY" then some lockedForm
  else if name = Text.bytes "ANY PRIVATE KEY" then some fun _ => none
  else (algorithmIn? name).bind fun algorithm => List.lookup algorithm named

/-- The names of blocks in which a key can be locked. -/
def lockedNames : List Bytes := [Text.bytes "PRIVATE KEY", Text.bytes "ENCRYPTED PRIVATE KEY"]

/-- The most octets of a header that tells nothing. -/
def headerMost : Nat := 10

/-- How a header begins that tells how a block is processed. -/
def process : Bytes := Text.bytes "Proc-Type:"

/-- The kind of processing that locks a block. -/
def locking : Bytes := Text.bytes "4,"

/-- Whether a header tells of a processing that does not lock a block. -/
def isForeign (header : Bytes) : Bool :=
  match process.isPrefixOf? header with
  | none => false
  | some rest => !locking.isPrefixOf (rest.dropWhile fun b => b = 0x20 || b = 0x09)

/-- Whether the header of a block tells how the block is locked. -/
def hasLock (block : Pem.Block) : Bool := headerMost < block.header.length && !isForeign block.header

/-- What is locked in a block. -/
def lockedIn? (block : Pem.Block) : Option LockedKey :=
  if lockedNames.contains block.name then LockedKey.reader.value? block.content else none

/-- The key in some octets, in the form that suits the name of their block. -/
def formed? (name content : Bytes) : Option PrivateKey := do
  let name ← Text.ofBytes? name
  let form ← List.lookup name searched
  form (← firstElement? content)

/-- What the search finds in a block: whether it ends there, and the key. -/
def inBlock (block : Pem.Block) : Bool × Option PrivateKey :=
  if hasLock block then (true, none)
  else if headerMost < block.header.length then (false, none)
  else
    match lockedIn? block with
    | none => (false, formed? block.name block.content)
    | some locked =>
      match locked.unlock? [] with
      | none => (!locked.isStrange, none)
      | some content => (false, (firstElement? content).bind (anyForm .search))

/-- The key in the first block that holds one. The search ends at a block that stays locked. -/
def search : List (Except Flaw Pem.Block) → Option PrivateKey
  | [] => none
  | .error _ :: rest => search rest
  | .ok block :: rest =>
    match inBlock block with
    | (_, some key) => some key
    | (true, none) => none
    | (false, none) => search rest

/-- The key in the first block that is named for one. -/
def direct : List (Except Flaw Pem.Block) → Except Flaw PrivateKey
  | [] => .error .noKey
  | .error flaw :: _ => .error flaw
  | .ok block :: rest =>
    match namedForm? block.name with
    | none => direct rest
    | some form =>
      if !block.header.isEmpty then .error .encryptedKey
      else
        match form block.content with
        | none => .error .unknownKey
        | some key => .ok key

/-- The key in a PEM text. -/
def ofPem (text : Bytes) : Except Flaw PrivateKey :=
  let blocks := Pem.blocks text
  match search blocks with
  | some key => .ok key
  | none => direct blocks

end PrivateKey

end LdapDecoy.Tls
