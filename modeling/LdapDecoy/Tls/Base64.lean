import LdapDecoy.Text.Utf8

/-!
# Base64

Octets in the alphabet of RFC 4648, four characters for three octets. Blanks between the characters do not
count, a hyphen ends the text, and the last four characters can end in one or two equals signs.
-/
namespace LdapDecoy.Tls.Base64

/-- The six bits that a character stands for. -/
def value? (b : UInt8) : Option Nat :=
  if 0x41 ≤ b ∧ b ≤ 0x5A then some (b.toNat - 0x41)
  else if 0x61 ≤ b ∧ b ≤ 0x7A then some (b.toNat - 0x61 + 26)
  else if 0x30 ≤ b ∧ b ≤ 0x39 then some (b.toNat - 0x30 + 52)
  else if b = 0x2B then some 62
  else if b = 0x2F then some 63
  else none

def isBlank (b : UInt8) : Bool := b = 0x20 || b = 0x09 || b = 0x0A || b = 0x0D

def isHyphen (b : UInt8) : Bool := b = 0x2D

/-- The sign that fills up the last four characters. -/
def pad : UInt8 := 0x3D

/-- The octets of four characters without padding. -/
def quad? (a b c d : UInt8) : Option Bytes := do
  let n := ((← value? a) * 64 + (← value? b)) * 4096 + (← value? c) * 64 + (← value? d)
  return [UInt8.ofNat (n / 65536), UInt8.ofNat (n / 256), UInt8.ofNat n]

/-- The octets of the last four characters. -/
def lastQuad? (a b c d : UInt8) : Option Bytes :=
  if c = pad ∧ d = pad then (quad? a b 0x41 0x41).map (·.take 1)
  else if d = pad then (quad? a b c 0x41).map (·.take 2)
  else quad? a b c d

/-- The octets of characters among which there are no blanks. -/
def solid? : Bytes → Option Bytes
  | [] => some []
  | [a, b, c, d] => lastQuad? a b c d
  | a :: b :: c :: d :: rest => do return (← quad? a b c d) ++ (← solid? rest)
  | _ => none

def decode? (s : Bytes) : Option Bytes :=
  solid? ((s.takeWhile fun b => !isHyphen b).filter fun b => !isBlank b)

end LdapDecoy.Tls.Base64
