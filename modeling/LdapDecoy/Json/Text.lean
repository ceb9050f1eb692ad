/-!
# JSON strings

How a text stands in a JSON document: quotes, backslashes and the controls below U+0020 are escaped,
everything else is written as it is.
-/
namespace LdapDecoy.Json

def hexDigit (n : Nat) : Char :=
  if n < 10 then Char.ofNat (48 + n) else Char.ofNat (87 + n)

def escapeChar (c : Char) : List Char :=
  if c = '"' then ['\\', '"']
  else if c = '\\' then ['\\', '\\']
  else if c = '\n' then ['\\', 'n']
  else if c = '\r' then ['\\', 'r']
  else if c = '\t' then ['\\', 't']
  else if c.toNat = 0x08 then ['\\', 'b']
  else if c.toNat = 0x0C then ['\\', 'f']
  else if c.toNat < 0x20 then ['\\', 'u', '0', '0', hexDigit (c.toNat / 16), hexDigit (c.toNat % 16)]
  else [c]

/-- The characters between the quotes. -/
def escape (s : List Char) : List Char := s.flatMap escapeChar

/-- A text as a JSON string, its quotes included. -/
def text (s : List Char) : List Char := '"' :: (escape s ++ ['"'])

/-- One member of an object: name, colon, value. -/
def member (name : String) (value : List Char) : List Char := text name.toList ++ ':' :: value

/-- An object of the given members, without blanks. -/
def object (members : List (List Char)) : List Char :=
  '\x7b' :: (List.intercalate [','] members ++ ['\x7d'])

end LdapDecoy.Json
