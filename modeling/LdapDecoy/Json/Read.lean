import LdapDecoy.Json.Scan

/-!
# Reading JSON

The members of an object in order, each with its name, the escapes in it undone, and its value as it is written,
without the blanks around it. Where a value ends is seen by scanning it: at the octet that ends it, what has been
scanned is a whole value.
-/
namespace LdapDecoy.Json

/-! ## Strings -/

/-- The value of a hexadecimal digit. -/
def hexValue? (c : Char) : Option Nat :=
  let n := c.toNat
  if 48 ≤ n && n ≤ 57 then some (n - 48)
  else if 65 ≤ n && n ≤ 70 then some (n - 55)
  else if 97 ≤ n && n ≤ 102 then some (n - 87)
  else none

/-- The number of four hexadecimal digits. -/
def codeUnit? (a b c d : Char) : Option Nat :=
  match hexValue? a, hexValue? b, hexValue? c, hexValue? d with
  | some a, some b, some c, some d => some (((a * 16 + b) * 16 + c) * 16 + d)
  | _, _, _, _ => none

/-- What a character means behind a backslash by itself. -/
def meant? (c : Char) : Option Char :=
  if c = '"' || c = '\\' || c = '/' then some c
  else if c = 'n' then some '\n'
  else if c = 'r' then some '\r'
  else if c = 't' then some '\t'
  else if c = 'b' then some (Char.ofNat 0x08)
  else if c = 'f' then some (Char.ofNat 0x0C)
  else none

def isHighHalf (unit : Nat) : Bool := 0xD800 ≤ unit && unit ≤ 0xDBFF

def isLowHalf (unit : Nat) : Bool := 0xDC00 ≤ unit && unit ≤ 0xDFFF

/-- The character of two halves. -/
def ofHalves (high low : Nat) : Char := Char.ofNat (0x10000 + (high - 0xD800) * 1024 + (low - 0xDC00))

/-- The text between the quotes, escapes undone. The halves of a character above U+FFFF must stand together. -/
def unescape? : List Char → Option (List Char)
  | [] => some []
  | '\\' :: 'u' :: a :: b :: c :: d :: rest =>
    match codeUnit? a b c d with
    | none => none
    | some unit =>
      if isHighHalf unit then
        match rest with
        | '\\' :: 'u' :: a :: b :: c :: d :: rest =>
          match codeUnit? a b c d with
          | none => none
          | some low => if isLowHalf low then (unescape? rest).map (ofHalves unit low :: ·) else none
        | _ => none
      else if isLowHalf unit then none
      else (unescape? rest).map (Char.ofNat unit :: ·)
  | '\\' :: c :: rest =>
    match meant? c with
    | none => none
    | some c => (unescape? rest).map (c :: ·)
  | c :: rest => if c = '"' || c = '\\' || c.toNat < 0x20 then none else (unescape? rest).map (c :: ·)

/-- The text of a string, quotes included. -/
def text? (s : Bytes) : Option String :=
  match Text.Utf8.decode? s with
  | some ('"' :: quoted) =>
    if quoted.getLast? = some '"' then (unescape? quoted.dropLast).map String.ofList else none
  | _ => none

/-! ## Objects -/

/-- The octets without the blanks around them. -/
def bare (s : Bytes) : Bytes := ((s.dropWhile isBlank).reverse.dropWhile isBlank).reverse

/-- Whether what has been scanned up to a place is a whole value. -/
def Place.isWhole (place : Place) : Bool := place.finish.isOk

/-- The value that is scanned from a place on up to an octet that ends it, and what stands from that octet on. -/
def delimit (isEnd : UInt8 → Bool) (place : Place) : Bytes → Option (Bytes × Bytes)
  | [] => none
  | b :: rest =>
    if isEnd b && place.isWhole then some ([], b :: rest)
    else
      match place.step b with
      | .error _ => none
      | .ok next => (delimit isEnd next rest).map fun (value, behind) => (b :: value, behind)

theorem delimit_shorter {isEnd : UInt8 → Bool} {place : Place} {s value behind : Bytes}
    (found : delimit isEnd place s = some (value, behind)) : behind.length ≤ s.length := by
  induction s generalizing place value with
  | nil => cases found
  | cons b rest ih =>
    rw [delimit] at found
    split at found
    · cases found
      exact Nat.le_refl _
    · split at found
      · cases found
      · simp only [Option.map_eq_some_iff, Prod.mk.injEq, Prod.exists] at found
        obtain ⟨_, _, deeper, _, rfl⟩ := found
        exact Nat.le_succ_of_le (ih deeper)

/-- Whether an octet ends the name of a member. -/
def endsName (b : UInt8) : Bool := b = 0x3A

/-- Whether an octet ends the value of a member. -/
def endsValue (b : UInt8) : Bool := b = 0x2C || b = 0x7D

/-- The members of an object, from the first character of a name on. -/
def membersFrom? (s : Bytes) : Option (List (String × Bytes)) :=
  match _named : delimit endsName .start s with
  | some (name, _ :: written) =>
    match _valued : delimit endsValue .start written with
    | some (value, mark :: rest) =>
      match text? (bare name) with
      | none => none
      | some name =>
        if mark = 0x2C then (membersFrom? rest).map ((name, bare value) :: ·)
        else if rest.all isBlank then some [(name, bare value)] else none
    | _ => none
  | _ => none
termination_by s.length
decreasing_by
  have behindName := delimit_shorter _named
  have behindValue := delimit_shorter _valued
  simp only [List.length_cons] at behindName behindValue
  omega

/-- The members of the object that the octets are. -/
def members? (s : Bytes) : Option (List (String × Bytes)) :=
  match s.dropWhile isBlank with
  | 0x7B :: inside =>
    match inside.dropWhile isBlank with
    | 0x7D :: rest => if rest.all isBlank then some [] else none
    | _ => membersFrom? inside
  | _ => none

end LdapDecoy.Json
