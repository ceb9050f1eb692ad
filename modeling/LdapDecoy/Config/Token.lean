import LdapDecoy.Text.Utf8

/-!
# Tokens

The token of a configuration that sets none: a random identifier of the fourth version in hexadecimal
digits, without hyphens. Sixteen octets are drawn, and six of their bits say of which kind the identifier is.
-/
namespace LdapDecoy.Config.Token

/-- The octets with the bits of a random identifier. -/
def stamp (octets : Bytes) : Bytes :=
  octets.mapIdx fun i octet =>
    if i = 6 then octet % 16 + 0x40 else if i = 8 then octet % 64 + 0x80 else octet

def digits (octet : UInt8) : List Char := Nat.toDigits 16 (octet.toNat + 256) |>.drop 1

/-- The token over some random octets. -/
def ofRandom (octets : Bytes) : String := String.ofList ((stamp octets).flatMap digits)

end LdapDecoy.Config.Token
