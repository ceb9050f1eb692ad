import LdapDecoy.Text.Utf8

/-!
# Writing BER

Elements with lengths of the shortest form. An integer has the fewest octets that hold the bits of its
magnitude, and one more where a positive number would look negative.
-/
namespace LdapDecoy.Ber.Write

/-- The digits of a number in base 256, without leading zeros; eight are enough for any length. -/
def digits : Nat → Nat → Bytes
  | 0, _ => []
  | fuel + 1, n => if n = 0 then [] else digits fuel (n / 256) ++ [UInt8.ofNat n]

def length (n : Nat) : Bytes :=
  if n < 128 then [UInt8.ofNat n]
  else let ds := digits 8 n; UInt8.ofNat (128 + ds.length) :: ds

/-- An element with the given tag. -/
def element (tag : UInt8) (content : Bytes) : Bytes := tag :: (length content.length ++ content)

/-- The last `count` octets of a word of 32 bits. -/
def lowOctets (n : Nat) : Nat → Bytes
  | 0 => []
  | count + 1 => lowOctets (n / 256) count ++ [UInt8.ofNat n]

/-- How many octets an integer takes. -/
def width (n : Int) : Nat :=
  let bits := if n = 0 then 0 else n.natAbs.log2 + 1
  let octets := max 1 ((bits + 7) / 8)
  if 0 < n && bits == 8 * octets then octets + 1 else octets

def integerContent (n : Int32) : Bytes := lowOctets n.toUInt32.toNat (width n.toInt)

def integer (n : Int32) : Bytes := element 0x02 (integerContent n)

def enumerated (n : Nat) : Bytes := element 0x0A (integerContent (Int32.ofNat n))

def octets (s : Bytes) : Bytes := element 0x04 s

def text (s : String) : Bytes := octets (Text.bytes s)

def sequence (elements : List Bytes) : Bytes := element 0x30 elements.flatten

def set (elements : List Bytes) : Bytes := element 0x31 elements.flatten

/-- A constructed element of the application class. -/
def application (number : UInt8) (elements : List Bytes) : Bytes :=
  element (0x60 + number) elements.flatten

/-- A primitive element of the context class. -/
def context (number : UInt8) (content : Bytes) : Bytes := element (0x80 + number) content

end LdapDecoy.Ber.Write
