/-!
# Internet endpoints

An address of either internet protocol with a port, read from its text form and written in it. The form
of the longer addresses is that of RFC 5952: lower case, the longest run of zeros shortened.
-/
namespace LdapDecoy.Net

inductive Address where
  | v4 (a b c d : UInt8)
  /-- Eight groups. -/
  | v6 (groups : List UInt16)
  deriving DecidableEq, Repr

/-- Where a socket is bound or connected; `scope` names a network interface. -/
structure Endpoint where
  address : Address
  port : UInt16
  scope : UInt32
  deriving DecidableEq, Repr

namespace Read

/-- A reader takes what it knows from the head of a text, or nothing. -/
abbrev Reader (α : Type) := List Char → Option (α × List Char)

def char (expected : Char) : Reader Unit
  | [] => none
  | c :: rest => if c = expected then some ((), rest) else none

def digit? (radix : Nat) (c : Char) : Option Nat :=
  let value :=
    if '0' ≤ c ∧ c ≤ '9' then c.toNat - 48
    else if 'a' ≤ c ∧ c ≤ 'f' then c.toNat - 87
    else if 'A' ≤ c ∧ c ≤ 'F' then c.toNat - 55
    else radix
  if value < radix then some value else none

/-- The digits at the head of a text, and what follows them. -/
def digits (radix : Nat) : List Char → List Nat × List Char
  | [] => ([], [])
  | c :: rest =>
    match digit? radix c with
    | none => ([], c :: rest)
    | some d => let (more, rest) := digits radix rest; (d :: more, rest)

/-- A number of at least one digit, below `bound`. -/
def number (radix bound : Nat) : Reader Nat := fun s =>
  match digits radix s with
  | ([], _) => none
  | (ds, rest) =>
    let value := ds.foldl (fun n d => n * radix + d) 0
    if value < bound then some (value, rest) else none

/-- A number of at most `width` digits, below `bound`. -/
def shortNumber (radix width bound : Nat) : Reader Nat := fun s =>
  if (digits radix s).1.length ≤ width then number radix bound s else none

/-- A decimal octet, without leading zeros. -/
def octet : Reader UInt8 := fun s =>
  match shortNumber 10 3 256 s with
  | some (value, rest) =>
    if (digits 10 s).1.head? = some 0 && (digits 10 s).1.length != 1 then none
    else some (UInt8.ofNat value, rest)
  | none => none

/-- Four octets with points between them. -/
def v4 : Reader (UInt8 × UInt8 × UInt8 × UInt8) := fun s => do
  let (a, s) ← octet s
  let ((), s) ← char '.' s
  let (b, s) ← octet s
  let ((), s) ← char '.' s
  let (c, s) ← octet s
  let ((), s) ← char '.' s
  let (d, s) ← octet s
  return ((a, b, c, d), s)

def group : Reader UInt16 := fun s =>
  (shortNumber 16 4 65536 s).map fun (value, rest) => (UInt16.ofNat value, rest)

/-- The colon in front of every group but the first. -/
def separator (isFirst : Bool) (s : List Char) : Option (List Char) :=
  if isFirst then some s else (char ':' s).map (·.2)

def pair (a b : UInt8) : UInt16 := UInt16.ofNat (a.toNat * 256 + b.toNat)

/-- What `groups` reads: the groups, whether four octets ended them, and the rest. -/
structure Groups where
  groups : List UInt16
  endsInOctets : Bool
  rest : List Char

def Groups.cons (first : UInt16) (more : Groups) : Groups := { more with groups := first :: more.groups }

/-- At most `limit` groups with colons between them, the last two of which can be four octets. -/
def groups (isFirst : Bool) : Nat → List Char → Groups
  | 0, s => ⟨[], false, s⟩
  | limit + 1, s =>
    match separator isFirst s with
    | none => ⟨[], false, s⟩
    | some inner =>
      match if limit = 0 then none else v4 inner with
      | some ((a, b, c, d), rest) => ⟨[pair a b, pair c d], true, rest⟩
      | none =>
        match group inner with
        | none => ⟨[], false, s⟩
        | some (first, rest) => (groups false limit rest).cons first

/-- Eight groups, or fewer with two colons for a run of zeros. -/
def v6 : Reader (List UInt16) := fun s =>
  let head := groups true 8 s
  if head.groups.length = 8 then some (head.groups, head.rest)
  else if head.endsInOctets then none
  else
    match head.rest with
    | ':' :: ':' :: rest =>
      let tail := groups true (7 - head.groups.length) rest
      let zeros := List.replicate (8 - head.groups.length - tail.groups.length) 0
      some (head.groups ++ zeros ++ tail.groups, tail.rest)
    | _ => none

/-- A colon and a port; leading zeros are taken. -/
def port : Reader UInt16 := fun s => do
  let ((), s) ← char ':' s
  let (value, s) ← number 10 65536 s
  return (UInt16.ofNat value, s)

/-- A scope behind an address: a percent sign and a number, or nothing. -/
def scope (s : List Char) : UInt32 × List Char :=
  match s with
  | '%' :: rest =>
    match number 10 4294967296 rest with
    | some (value, rest) => (UInt32.ofNat value, rest)
    | none => (0, s)
  | _ => (0, s)

def shortEndpoint : Reader Endpoint := fun s => do
  let ((a, b, c, d), s) ← v4 s
  let (port, s) ← port s
  return (⟨.v4 a b c d, port, 0⟩, s)

def longEndpoint : Reader Endpoint := fun s => do
  let ((), s) ← char '[' s
  let (groups, s) ← v6 s
  let (scope, s) := scope s
  let ((), s) ← char ']' s
  let (port, s) ← port s
  return (⟨.v6 groups, port, scope⟩, s)

def endpoint : Reader Endpoint := fun s => (shortEndpoint s).or (longEndpoint s)

end Read

/-- The endpoint that a text spells, with nothing around it. -/
def Endpoint.ofChars? (s : List Char) : Option Endpoint :=
  match Read.endpoint s with
  | some (endpoint, []) => some endpoint
  | _ => none

def Endpoint.ofString? (s : String) : Option Endpoint := ofChars? s.toList

namespace Write

def hexDigit (n : Nat) : Char := if n < 10 then Char.ofNat (48 + n) else Char.ofNat (87 + n)

/-- The hexadecimal digits of a group, without leading zeros. -/
def group (g : UInt16) : String :=
  let n := g.toNat
  let digits := [n / 4096, n / 256 % 16, n / 16 % 16].dropWhile (· == 0) ++ [n % 16]
  String.ofList (digits.map hexDigit)

def octets (a b c d : UInt8) : String :=
  String.intercalate "." ([a, b, c, d].map fun octet => toString octet.toNat)

def groups (gs : List UInt16) : String := String.intercalate ":" (gs.map group)

/-- How many zeros stand at the head of the groups. -/
def zeros (gs : List UInt16) : Nat := (gs.takeWhile (· == 0)).length

/-- Start and length of the first longest run of zeros, `place` being the place of the first group. -/
def longestRun (place : Nat) : List UInt16 → Nat × Nat
  | [] => (0, 0)
  | g :: gs =>
    let here := zeros (g :: gs)
    let later := longestRun (place + 1) gs
    if here ≠ 0 && later.2 ≤ here then (place, here) else later

def v6 (gs : List UInt16) : String :=
  match gs with
  | [0, 0, 0, 0, 0, 0xFFFF, a, b] =>
    "::ffff:" ++ octets (UInt8.ofNat (a.toNat / 256)) (UInt8.ofNat (a.toNat % 256))
      (UInt8.ofNat (b.toNat / 256)) (UInt8.ofNat (b.toNat % 256))
  | _ =>
    let (start, length) := longestRun 0 gs
    if length > 1 then groups (gs.take start) ++ "::" ++ groups (gs.drop (start + length))
    else groups gs

end Write

def Address.text : Address → String
  | .v4 a b c d => Write.octets a b c d
  | .v6 groups => Write.v6 groups

def Endpoint.text (endpoint : Endpoint) : String :=
  match endpoint.address with
  | .v4 a b c d => Write.octets a b c d ++ ":" ++ toString endpoint.port.toNat
  | .v6 groups =>
    let scope := if endpoint.scope = 0 then "" else "%" ++ toString endpoint.scope.toNat
    "[" ++ Write.v6 groups ++ scope ++ "]:" ++ toString endpoint.port.toNat

end LdapDecoy.Net
