import LdapDecoy.Text.Utf8

/-!
# Object identifiers

The content octets of an object identifier: the first two arcs in one number, and each number in base 128
with a continuation bit.
-/
namespace LdapDecoy.Ber.ObjectId

/-- The leading digits of a number in base 128, each with its continuation bit. -/
def leading : Nat → Nat → Bytes
  | 0, _ => []
  | fuel + 1, n => if n = 0 then [] else leading fuel (n / 128) ++ [UInt8.ofNat (128 + n % 128)]

/-- A number in base 128; the arcs that are used fit ten digits. -/
def arc (n : Nat) : Bytes := leading 9 (n / 128) ++ [UInt8.ofNat (n % 128)]

/-- The content of the identifier with the given arcs. -/
def encode : List Nat → Bytes
  | first :: second :: rest => arc (first * 40 + second) ++ rest.flatMap arc
  | _ => []

end LdapDecoy.Ber.ObjectId
