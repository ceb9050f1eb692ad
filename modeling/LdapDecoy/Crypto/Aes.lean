import LdapDecoy.Crypto.Field

/-!
# AES

The block cipher with keys of 16, 24 or 32 octets, as far as it is needed to read what is enciphered with
it: blocks that are chained, the last of which is filled up.
-/
namespace LdapDecoy.Crypto.Aes

/-- The field that octets are elements of. -/
def octetField : Field := .binary 0x11B

def multiply (a : Nat) (b : UInt8) : UInt8 := UInt8.ofNat (octetField.multiply a b.toNat)

/-- An octet turned to the left. -/
def turnLeft (b count : UInt8) : UInt8 := b <<< count ||| b >>> (8 - count)

def inverse (b : UInt8) : UInt8 := if b = 0 then 0 else UInt8.ofNat (octetField.inverse b.toNat)

/-- What an octet is replaced by. -/
def substitute (b : UInt8) : UInt8 :=
  let c := inverse b
  c ^^^ turnLeft c 1 ^^^ turnLeft c 2 ^^^ turnLeft c 3 ^^^ turnLeft c 4 ^^^ 0x63

/-- The octet that another one replaced. -/
def restore (b : UInt8) : UInt8 := inverse (turnLeft b 1 ^^^ turnLeft b 3 ^^^ turnLeft b 6 ^^^ 0x05)

def octets : List UInt8 := (List.range 256).map UInt8.ofNat

def substitutes : Array UInt8 := (octets.map substitute).toArray

def restored : Array UInt8 := (octets.map restore).toArray

def exclusiveOr (a b : Bytes) : Bytes := List.zipWith (· ^^^ ·) a b

/-- The word behind the last of some words, `size` of which came from the key. -/
def nextWord (size : Nat) (words : Array Bytes) : Bytes :=
  let count := words.size
  let last := words.getD (count - 1) []
  let replaced := fun (word : Bytes) => word.map fun b => substitutes.getD b.toNat 0
  let mixed :=
    if count % size = 0 then
      let constant := UInt8.ofNat (octetField.power 2 (count / size - 1))
      exclusiveOr (replaced (last.drop 1 ++ last.take 1)) [constant, 0, 0, 0]
    else if 6 < size && count % size = 4 then replaced last
    else last
  exclusiveOr (words.getD (count - size) []) mixed

/-- Parts of four octets. -/
def words : Bytes → List Bytes
  | a :: b :: c :: d :: rest => [a, b, c, d] :: words rest
  | _ => []

/-- The keys of all rounds, the first one first. -/
def roundKeys (key : Bytes) : List Bytes :=
  let size := key.length / 4
  let count := 4 * (size + 7)
  let all := (List.range (count - size)).foldl (fun all _ => all.push (nextWord size all)) (words key).toArray
  (List.range (size + 7)).map fun i => (all.extract (4 * i) (4 * i + 4)).toList.flatten

/-- The octets of a block with each row turned back. -/
def turnRows (block : Bytes) : Bytes :=
  let all := block.toArray
  (List.range 16).map fun i => all.getD ((i + 12 * (i % 4)) % 16) 0

/-- A column of a block from before it was mixed. -/
def unmixed : Bytes → Bytes
  | [a, b, c, d] =>
    let row := fun a b c d => multiply 14 a ^^^ multiply 11 b ^^^ multiply 13 c ^^^ multiply 9 d
    [row a b c d, row b c d a, row c d a b, row d a b c]
  | column => column

/-- A block from before its octets were replaced and its rows turned. -/
def unreplaced (block : Bytes) : Bytes := (turnRows block).map fun b => restored.getD b.toNat 0

/-- Deciphers a block with the keys of all rounds, the last one first. -/
def decipherBlock (keys : List Bytes) (block : Bytes) : Bytes :=
  match keys with
  | [] => block
  | first :: rest =>
    rest.zipIdx.foldl (fun block (key, i) =>
      let joined := exclusiveOr (unreplaced block) key
      if i + 1 < rest.length then (words joined).flatMap unmixed else joined) (exclusiveOr block first)

/-- Deciphers so many blocks, each of which was joined with the one before it. -/
def decipherChain (keys : List Bytes) : Nat → Bytes → Bytes → Bytes
  | 0, _, _ => []
  | count + 1, before, s =>
    let block := s.take 16
    exclusiveOr (decipherBlock keys block) before ++ decipherChain keys count block (s.drop 16)

/-- A text without what fills it up: so many octets, each of which is their count. -/
def unfilled? (s : Bytes) : Option Bytes := do
  let last ← s.getLast?
  let count := last.toNat
  let filling := s.drop (s.length - count)
  if 0 < count && count ≤ 16 && count ≤ s.length && filling.all (· = last) then some (s.take (s.length - count))
  else none

/-- Deciphers whole blocks with a key and the block that stands before the first. -/
def decipher? (key before s : Bytes) : Option Bytes :=
  if s.isEmpty || s.length % 16 ≠ 0 then none
  else unfilled? (decipherChain (roundKeys key).reverse (s.length / 16) before s)

end LdapDecoy.Crypto.Aes
