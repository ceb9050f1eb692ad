import LdapDecoy.Asn1.Value
import LdapDecoy.Text.Utf8

/-!
# Distinguished names

The names of owners and issuers in certificates. Only their form is checked: which types of text a value can
have, and that text in Unicode is valid.
-/
namespace LdapDecoy.Tls
open Asn1 Asn1.Reader

namespace DistinguishedName

/-- The numbers of the types that a value can have. -/
def types : List Nat := [3, 7, 8, 9, 11, 12, 13, 14, 15, 16, 18, 19, 20, 22, 28, 29, 30]

/-- The numbers that octets write, so many octets for each. -/
def units (size : Nat) : Nat → Bytes → List Nat
  | 0, _ => []
  | count + 1, octets => natural (octets.take size) :: units size count (octets.drop size)

/-- Whether numbers are those of characters. -/
def areCharacters (numbers : List Nat) : Bool := numbers.all fun n => decide n.isValidChar

/-- Whether a value of a type is valid text, where the type is one of Unicode. -/
def isText (type : Nat) (octets : Bytes) : Bool :=
  match type with
  | 12 => (Text.ofBytes? octets).isSome
  | 28 => areCharacters (units 4 (octets.length / 4) octets)
  | 30 => areCharacters (units 2 (octets.length / 2) octets)
  | _ => true

def value : Reader Unit := do
  let found ← any
  let type := found.tag.number
  guard (found.tag.cls = .universal && types.contains type && isText type found.octets)

/-- One part of a name: of what kind it is, and its value. -/
def part : Reader Unit := inSequence do
  let _ ← objectId
  value

def reader : Reader Unit := do
  let _ ← listOf .sequence (listOf .set part)

end DistinguishedName

end LdapDecoy.Tls
