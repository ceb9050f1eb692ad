/-!
# UTF-8

Texts as octets. Reading takes the well-formed sequences of the Unicode standard: no overlong form,
no surrogate, nothing above U+10FFFF. What is not well formed is measured by its maximal prefix that
could still begin a sequence; strict reading reports it, lenient reading replaces it.
-/
namespace LdapDecoy

abbrev Bytes := List UInt8

namespace Text.Utf8

/-- The character whose code point has these bits; the scalar values are exactly what well-formed sequences spell. -/
def scalar (bits : Nat) : Char := Char.ofNat bits

/-- The six bits that a continuation octet carries. -/
def payload (b : UInt8) : Nat := b.toNat % 64

def isTail (b : UInt8) : Bool := 0x80 ≤ b && b ≤ 0xBF

/-- The octets that may follow a lead octet of a sequence of three or four. -/
def isSecond (lead second : UInt8) : Bool :=
  if lead = 0xE0 then 0xA0 ≤ second && second ≤ 0xBF
  else if lead = 0xED then 0x80 ≤ second && second ≤ 0x9F
  else if lead = 0xF0 then 0x90 ≤ second && second ≤ 0xBF
  else if lead = 0xF4 then 0x80 ≤ second && second ≤ 0x8F
  else isTail second

/-- What stands at the head of an octet string. -/
inductive Head where
  | none
  | char (c : Char) (rest : Bytes)
  /-- `size` octets could begin a sequence, and the octet behind them does not go on with it. -/
  | broken (size : Nat) (rest : Bytes)
  /-- All octets begin a sequence that the input does not finish. -/
  | cut
  deriving DecidableEq, Repr

def head : Bytes → Head
  | [] => .none
  | a :: rest =>
    if a < 0x80 then .char (scalar a.toNat) rest
    else if 0xC2 ≤ a && a ≤ 0xDF then
      match rest with
      | [] => .cut
      | b :: rest =>
        if isTail b then .char (scalar (a.toNat % 32 * 64 + payload b)) rest else .broken 1 (b :: rest)
    else if 0xE0 ≤ a && a ≤ 0xEF then
      match rest with
      | [] => .cut
      | b :: rest =>
        if isSecond a b then
          match rest with
          | [] => .cut
          | c :: rest =>
            if isTail c then .char (scalar ((a.toNat % 16 * 64 + payload b) * 64 + payload c)) rest
            else .broken 2 (c :: rest)
        else .broken 1 (b :: rest)
    else if 0xF0 ≤ a && a ≤ 0xF4 then
      match rest with
      | [] => .cut
      | b :: rest =>
        if isSecond a b then
          match rest with
          | [] => .cut
          | c :: rest =>
            if isTail c then
              match rest with
              | [] => .cut
              | d :: rest =>
                if isTail d then
                  .char (scalar (((a.toNat % 8 * 64 + payload b) * 64 + payload c) * 64 + payload d)) rest
                else .broken 3 (d :: rest)
            else .broken 2 (c :: rest)
        else .broken 1 (b :: rest)
    else .broken 1 rest

theorem head_char_shorter {s rest : Bytes} {c : Char} (h : head s = .char c rest) :
    rest.length < s.length := by
  unfold head at h
  repeat' split at h
  all_goals first
    | contradiction
    | (injection h with _ e; subst e; simp only [List.length_cons]; omega)

theorem head_broken_shorter {s rest : Bytes} {n : Nat} (h : head s = .broken n rest) :
    rest.length < s.length := by
  unfold head at h
  repeat' split at h
  all_goals first
    | contradiction
    | (injection h with _ e; subst e; simp only [List.length_cons]; omega)

/-- Why octets are no text: the offset of the first sequence that fails, and how it fails. -/
inductive Fault where
  | invalid (offset size : Nat)
  | incomplete (offset : Nat)
  deriving DecidableEq, Repr

def Fault.message : Fault → String
  | .invalid offset size => s!"invalid utf-8 sequence of {size} bytes from index {offset}"
  | .incomplete offset => s!"incomplete utf-8 byte sequence from index {offset}"

/-- Strict reading from `offset` on. -/
def decodeFrom (offset : Nat) (s : Bytes) : Except Fault (List Char) :=
  match h : head s with
  | .none => .ok []
  | .char c rest =>
    have := head_char_shorter h
    (decodeFrom (offset + (s.length - rest.length)) rest).map (c :: ·)
  | .broken size _ => .error (.invalid offset size)
  | .cut => .error (.incomplete offset)
termination_by s.length

/-- The characters that the octets spell, all of them. -/
def decode (s : Bytes) : Except Fault (List Char) := decodeFrom 0 s

def decode? (s : Bytes) : Option (List Char) := (decode s).toOption

/-- U+FFFD, which stands for what could not be read. -/
def replacement : Char := Char.ofNat 0xFFFD

/-- Lenient reading: each maximal broken sequence becomes one replacement character. -/
def lossy (s : Bytes) : List Char :=
  match h : head s with
  | .none => []
  | .char c rest =>
    have := head_char_shorter h
    c :: lossy rest
  | .broken _ rest =>
    have := head_broken_shorter h
    replacement :: lossy rest
  | .cut => [replacement]
termination_by s.length

/-- The octets of one character. -/
def encodeChar (c : Char) : Bytes :=
  let n := c.toNat
  if n < 0x80 then [UInt8.ofNat n]
  else if n < 0x800 then [UInt8.ofNat (0xC0 + n / 64), UInt8.ofNat (0x80 + n % 64)]
  else if n < 0x10000 then
    [UInt8.ofNat (0xE0 + n / 4096), UInt8.ofNat (0x80 + n / 64 % 64), UInt8.ofNat (0x80 + n % 64)]
  else
    [UInt8.ofNat (0xF0 + n / 262144), UInt8.ofNat (0x80 + n / 4096 % 64),
      UInt8.ofNat (0x80 + n / 64 % 64), UInt8.ofNat (0x80 + n % 64)]

def encode (s : List Char) : Bytes := s.flatMap encodeChar

/-- How many octets the characters take. -/
def size (s : List Char) : Nat := (encode s).length

end Text.Utf8

namespace Text

/-- The octets of a text. -/
def bytes (s : String) : Bytes := Utf8.encode s.toList

/-- The text of octets, replacement characters standing for what is not UTF-8. -/
def lossy (s : Bytes) : String := String.ofList (Utf8.lossy s)

def ofBytes? (s : Bytes) : Option String := (Utf8.decode? s).map String.ofList

end Text

end LdapDecoy
