import LdapDecoy.Text.Visible

/-!
# Quoted text

A text between double quotes on one line. Quotes, backslashes and the common controls have short
escapes; every other character that is not visible is written by its code point in hexadecimal.
-/
namespace LdapDecoy.Text.Quoted

def hexDigit (n : Nat) : Char :=
  if n < 10 then Char.ofNat (48 + n) else Char.ofNat (87 + n)

/-- The hexadecimal digits of `n` in lower case, at most `fuel + 1` of them, without leading zeros. -/
def hexDigits : Nat → Nat → List Char
  | 0, n => [hexDigit (n % 16)]
  | fuel + 1, n => if n < 16 then [hexDigit n] else hexDigits fuel (n / 16) ++ [hexDigit (n % 16)]

/-- The escape of a character by its code point, which has six digits at most. -/
def byCodePoint (c : Char) : List Char :=
  ['\\', 'u', '\x7b'] ++ hexDigits 5 c.toNat ++ ['\x7d']

def encodeChar (c : Char) : List Char :=
  if c = '"' then ['\\', '"']
  else if c = '\\' then ['\\', '\\']
  else if c = '\n' then ['\\', 'n']
  else if c = '\r' then ['\\', 'r']
  else if c = '\t' then ['\\', 't']
  else if c.toNat = 0 then ['\\', '0']
  else if visible c then [c]
  else byCodePoint c

/-- The characters between the quotes. -/
def encode (s : List Char) : List Char := s.flatMap encodeChar

end Quoted

/-- The text in quotes. -/
def quoted (s : String) : String :=
  String.ofList ('"' :: (Quoted.encode s.toList ++ ['"']))

end LdapDecoy.Text
