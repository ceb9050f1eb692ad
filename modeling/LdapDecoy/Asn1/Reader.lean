import LdapDecoy.Asn1.Header

/-!
# Readers of elements

How the elements of a structure are read, one behind the other. A reader takes what belongs to it from the
head of some octets and leaves the rest. Content of a given length must be read to its end, and other content
up to its mark.
-/
namespace LdapDecoy.Asn1

/-- Takes a value from the head of some octets, if it is there. -/
abbrev Reader (α : Type) := StateT Bytes Option α

namespace Tag

def universal (number : Nat) : Tag := ⟨.universal, number⟩

/-- The tag of a field that is told apart by its number. -/
def field (number : Nat) : Tag := ⟨.context, number⟩

def boolean : Tag := universal 1

def integer : Tag := universal 2

def bitString : Tag := universal 3

def octetString : Tag := universal 4

def objectId : Tag := universal 6

def sequence : Tag := universal 16

def set : Tag := universal 17

end Tag

namespace Reader

variable {α : Type}

/-- The value at the head of some octets, whatever is behind it. -/
def value? (reader : Reader α) (octets : Bytes) : Option α := (reader octets).map (·.1)

/-- Whether nothing more stands in an element. -/
def isDone : Bytes → Bool
  | [] => true
  | 0 :: 0 :: _ => true
  | _ => false

def header : Reader Header := fun s => Header.read? s

/-- The header of an element with a tag. -/
def headerOf (tag : Tag) : Reader Header := do
  let found ← header
  guard (found.tag = tag)
  return found

/-- The next octets, as many as are asked for. -/
def take (count : Nat) : Reader Bytes := fun s => Ber.splitAt? count s

/-- Reads the whole content behind a header. -/
def inside (header : Header) (inner : Reader α) : Reader α := fun s =>
  match header.length with
  | some length => do
    let (content, rest) ← Ber.splitAt? length s
    match ← inner content with
    | (value, []) => some (value, rest)
    | (_, _ :: _) => none
  | none => do
    match ← inner s with
    | (value, 0 :: 0 :: rest) => some (value, rest)
    | _ => none

/-- The content of an element that holds others. -/
def within (tag : Tag) (inner : Reader α) : Reader α := do
  let found ← headerOf tag
  guard found.isConstructed
  inside found inner

def inSequence (inner : Reader α) : Reader α := within .sequence inner

/-- What stands in a field of its own. -/
def field (number : Nat) (inner : Reader α) : Reader α := within (.field number) inner

/-- Whether an element with a tag comes next; nothing comes next in an element that is done. -/
def comes (tag : Tag) : Reader Bool := fun s =>
  if isDone s then some (false, s)
  else (Header.read? s).map fun (found, _) => (decide (found.tag = tag), s)

/-- What begins with a tag, unless it is left out. -/
def optional (tag : Tag) (reader : Reader α) : Reader (Option α) := do
  if ← comes tag then return some (← reader) else return none

/-- Reads what else there is, unless the element is done. -/
def unlessDone (reader : Reader α) : Reader (Option α) := do
  if isDone (← get) then return none else return some (← reader)

/-- So many things one behind the other. -/
def exactly (item : Reader α) : Nat → Reader (List α)
  | 0 => return []
  | n + 1 => do
    let first ← item
    return first :: (← exactly item n)

/-- At most so many things one behind the other. -/
def upTo (item : Reader α) : Nat → Reader (List α)
  | 0 => return []
  | n + 1 => do
    if isDone (← get) then return []
    else
      let first ← item
      return first :: (← upTo item n)

/-- All things up to the end of an element, each of which takes an octet at least. -/
def many (item : Reader α) : Reader (List α) := do upTo item (← get).length

/-- The things in a list with a tag. -/
def listOf (tag : Tag) (item : Reader α) : Reader (List α) := do
  let found ← headerOf tag
  inside found (many item)

/-- The octets that a reader takes, as they are. -/
def taken (reader : Reader α) : Reader Bytes := fun s => do
  let (_, rest) ← reader s
  some (s.take (s.length - rest.length), rest)

/-- The content of an element that does not come in pieces. -/
def whole (tag : Tag) : Reader Bytes := do
  let found ← headerOf tag
  guard (!found.isConstructed)
  take (found.length.getD 0)

/-- How deep the pieces of a string can lie in one another. -/
def deepest : Nat := 5

/-- One piece of a string; `nested` reads pieces that lie in a piece. -/
def piece (nested : Reader Bytes) : Reader Bytes := do
  let found ← header
  if found.isConstructed then inside found nested else take (found.length.getD 0)

/-- The pieces of a string up to the end of an element, put together. -/
def pieces : Nat → Reader Bytes
  | 0 => List.flatten <$> many (piece failure)
  | depth + 1 => List.flatten <$> many (piece (pieces depth))

/-- The octets of a string behind its header. -/
def stringOf (found : Header) : Reader Bytes :=
  if found.isConstructed then inside found (pieces deepest) else take (found.length.getD 0)

/-- The octets of a string with a tag, in one piece or in several. -/
def string (tag : Tag) : Reader Bytes := do stringOf (← headerOf tag)

/-- Leaves out elements until so many of those that end with a mark have ended. -/
def skipOpen (count : Nat) : Reader Unit := fun s =>
  match count, s with
  | 0, _ => some ((), s)
  | count + 1, 0 :: 0 :: rest => skipOpen count rest
  | count + 1, s =>
    match h : Header.read? s with
    | none => none
    | some (found, rest) =>
      have := Header.read?_shorter h
      match found.length with
      | none => skipOpen (count + 2) rest
      | some length => skipOpen (count + 1) (rest.drop length)
termination_by s => s.length

/-- The octets of an element, from its header on. -/
def element : Reader Bytes := taken do
  let found ← header
  match found.length with
  | none => skipOpen 1
  | some length => let _ ← take length

end Reader

end LdapDecoy.Asn1
