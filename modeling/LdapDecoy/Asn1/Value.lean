import LdapDecoy.Asn1.Reader

/-!
# Values

The values that stand in certificates and keys: numbers, object identifiers, strings of bits and octets,
times, and values of any kind whose form alone is checked.
-/
namespace LdapDecoy.Asn1

/-- How many bits a number has. -/
def bitLength (n : Nat) : Nat := if n = 0 then 0 else n.log2 + 1

/-- How many octets a number takes. -/
def octetLength (n : Nat) : Nat := (bitLength n + 7) / 8

/-- The number that octets write in two's complement. -/
def signed (octets : Bytes) : Int :=
  if (octets.headD 0) < 0x80 then natural octets
  else (natural octets : Int) - (1 <<< (8 * octets.length) : Nat)

/-- Whether a number in two's complement is written without an octet too many. -/
def isShortest : Bytes → Bool
  | [] => false
  | [_] => true
  | first :: second :: _ => !(first = 0 && second < 0x80) && !(first = 0xFF && 0x80 ≤ second)

/-- Whether octets are the content of an object identifier: numbers in base 128, none of which begins with a
zero digit, and the last of which ends. -/
def isObjectId (octets : Bytes) : Bool :=
  match octets.getLast? with
  | none => false
  | some last => last < 0x80 && starts true octets
where
  /-- Whether no number begins with a zero digit; the first octet begins one if so told. -/
  starts (begins : Bool) : Bytes → Bool
    | [] => true
    | b :: rest => !(begins && b = 0x80) && starts (b < 0x80) rest

/-- The octets of a string of bits whose first octet says how many bits of the last do not count. -/
def bitsOf? : Bytes → Option Bytes
  | [] => none
  | unused :: octets =>
    if 7 < unused then none
    else
      match octets.getLast? with
      | none => some []
      | some last => some (octets.dropLast ++ [last >>> unused <<< unused])

/-- Whether content is long enough for a time that the tag's number tells. -/
def isTime (number : Nat) (content : Bytes) : Bool :=
  if number = 23 then 13 ≤ content.length else 15 ≤ content.length

namespace Reader

/-- A whole number. -/
def integer : Reader Int := do
  let content ← whole .integer
  guard (isShortest content)
  return signed content

/-- A number of 32 bits with a sign; an empty one is zero. -/
def small : Reader Int := do
  let content ← whole .integer
  if content.isEmpty then return 0
  else
    guard (isShortest content)
    let n := signed content
    guard (-0x80000000 ≤ n && n < 0x80000000)
    return n

/-- A number whose octets count as they are, without a sign. -/
def magnitude : Reader Nat := do return natural (← whole .integer)

/-- The content of an object identifier. -/
def objectId : Reader Bytes := do
  let content ← whole .objectId
  guard (isObjectId content)
  return content

def octets : Reader Bytes := string .octetString

/-- The octets of a string of bits, without the bits that do not count. -/
def bitsTagged (tag : Tag) : Reader Bytes := fun s => do
  let (content, rest) ← string tag s
  return (← bitsOf? content, rest)

def bits : Reader Bytes := bitsTagged .bitString

/-- A time, of which only the form is looked at. -/
def time : Reader Unit := do
  let found ← header
  guard (found.tag.cls = .universal && (found.tag.number = 23 || found.tag.number = 24))
  let content ← stringOf found
  guard (isTime found.tag.number content)

end Reader

/-- A value of any kind: its tag, and the octets of its content, or of all of it where only its bounds are
known. -/
structure Any where
  tag : Tag
  octets : Bytes
  deriving DecidableEq, Repr

/-- Whether content has the form that the number of a universal tag asks for. -/
def isContent (number : Nat) (content : Bytes) : Bool :=
  match number with
  | 1 => content.length = 1
  | 2 | 10 => isShortest content
  | 3 => (bitsOf? content).isSome
  | 5 => content.isEmpty
  | 6 => isObjectId content
  | 23 | 24 => isTime number content
  | 28 => content.length % 4 = 0
  | 30 => content.length % 2 = 0
  | _ => true

/-- The numbers of universal tags whose content never comes in pieces. -/
def unbroken : List Nat := [1, 2, 5, 6, 10]

namespace Reader

/-- The content of an element of a universal type that does not hold elements. -/
def contentOf (found : Header) : Reader Bytes := do
  guard (!(found.isConstructed && unbroken.contains found.tag.number))
  let content ← stringOf found
  guard (isContent found.tag.number content)
  return content

def any : Reader Any := fun s => do
  guard (!isDone s)
  let (found, rest) ← Header.read? s
  let isOpen := found.tag.cls ≠ .universal
  if isOpen ∨ found.tag.number = 16 ∨ found.tag.number = 17 then
    guard (isOpen || found.isConstructed)
    let (octets, rest) ← element s
    return (⟨found.tag, octets⟩, rest)
  else
    let (content, rest) ← contentOf found rest
    return (⟨found.tag, content⟩, rest)

end Reader

end LdapDecoy.Asn1
