import LdapDecoy.Ber.Element

/-!
# Headers of elements

What stands in front of the content of an element in a certificate or a key: a tag, whose number can take
several octets, and a length. Content without a given length ends with a mark of two zero octets.
-/
namespace LdapDecoy.Asn1

/-- The natural number that octets write in base 256. -/
def natural (octets : Bytes) : Nat := octets.foldl (fun n b => n * 256 + b.toNat) 0

structure Tag where
  cls : Ber.Class
  number : Nat
  deriving DecidableEq, Repr

structure Header where
  tag : Tag
  isConstructed : Bool
  /-- How many octets the content has, where that is given. -/
  length : Option Nat
  deriving DecidableEq, Repr

namespace Header

/-- The most that the leading digits of a long tag number come to. -/
def numberLimit : Nat := 0xFFFFFF

/-- A tag number in base 128, behind digits that come to `n`. The upper bit of its last octet is clear. -/
def longNumber? (n : Nat) : Bytes → Option (Nat × Bytes)
  | [] => none
  | b :: rest =>
    let next := n * 128 + b.toNat % 128
    if b < 0x80 then some (next, rest)
    else if numberLimit < next then none
    else longNumber? next rest

/-- The number of a tag whose first octet is given. -/
def tagNumber? (tag : UInt8) (rest : Bytes) : Option (Nat × Bytes) :=
  if tag % 32 = 31 then longNumber? 0 rest else some ((tag % 32).toNat, rest)

/-- A length that several octets write, behind which something must stand. -/
def longLength? (count : Nat) (s : Bytes) : Option (Nat × Bytes) :=
  (Ber.splitAt? count s).bind fun (octets, rest) =>
    if rest.isEmpty then none else some (natural octets, rest)

/-- A length: one octet below 128, or the count of the octets that write it, or none. -/
def length? : Bytes → Option (Option Nat × Bytes)
  | [] => none
  | b :: rest =>
    if b < 0x80 then some (some b.toNat, rest)
    else if b = 0x80 then some (none, rest)
    else (longLength? (b.toNat - 128) rest).map fun (n, rest) => (some n, rest)

/-- Whether the content can be as long as the header says. Only elements can stand in content that ends with
a mark. -/
def isPossible (header : Header) (rest : Bytes) : Bool :=
  match header.length with
  | none => header.isConstructed
  | some n => n ≤ rest.length

/-- The header at the head of some octets, whether or not its content is there. -/
def peek? : Bytes → Option (Header × Bytes)
  | [] => none
  | tag :: rest =>
    (tagNumber? tag rest).bind fun (number, rest) =>
      (length? rest).map fun (length, rest) => (⟨⟨.ofTag tag, number⟩, tag / 32 % 2 = 1, length⟩, rest)

/-- The header at the head of some octets, and the octets behind it, among which is the content. -/
def read? (s : Bytes) : Option (Header × Bytes) :=
  (peek? s).filter fun (header, rest) => header.isPossible rest

theorem longNumber?_shorter {n m : Nat} {s rest : Bytes} (h : longNumber? n s = some (m, rest)) :
    rest.length < s.length := by
  induction s generalizing n with
  | nil => simp [longNumber?] at h
  | cons b s ih =>
    simp only [longNumber?] at h
    split at h
    · simp only [Option.some.injEq, Prod.mk.injEq] at h
      rw [← h.2, List.length_cons]
      omega
    · split at h
      · contradiction
      · have := ih h
        rw [List.length_cons]
        omega

theorem tagNumber?_le {tag : UInt8} {n : Nat} {s rest : Bytes} (h : tagNumber? tag s = some (n, rest)) :
    rest.length ≤ s.length := by
  unfold tagNumber? at h
  split at h
  · exact Nat.le_of_lt (longNumber?_shorter h)
  · simp only [Option.some.injEq, Prod.mk.injEq] at h
    exact Nat.le_of_eq (congrArg List.length h.2.symm)

theorem length?_shorter {s rest : Bytes} {length : Option Nat} (h : length? s = some (length, rest)) :
    rest.length < s.length := by
  cases s with
  | nil => simp [length?] at h
  | cons b s =>
    rw [List.length_cons]
    simp only [length?] at h
    split at h
    · simp only [Option.some.injEq, Prod.mk.injEq] at h
      rw [← h.2]
      omega
    · split at h
      · simp only [Option.some.injEq, Prod.mk.injEq] at h
        rw [← h.2]
        omega
      · simp only [longLength?, Option.map_eq_some_iff, Option.bind_eq_some_iff, Prod.mk.injEq] at h
        obtain ⟨⟨n, behind⟩, ⟨⟨octets, after⟩, found, h⟩, _, same⟩ := h
        split at h
        · cases h
        · simp only [Option.some.injEq, Prod.mk.injEq] at h
          rw [Ber.splitAt?_eq found, List.length_append, ← same, ← h.2]
          change after.length < _
          omega

theorem peek?_shorter {s rest : Bytes} {header : Header} (h : peek? s = some (header, rest)) :
    rest.length < s.length := by
  cases s with
  | nil => simp [peek?] at h
  | cons tag s =>
    simp only [peek?, Option.bind_eq_some_iff, Option.map_eq_some_iff, Prod.mk.injEq] at h
    obtain ⟨⟨number, afterNumber⟩, foundNumber, ⟨length, afterLength⟩, foundLength, _, same⟩ := h
    have := tagNumber?_le foundNumber
    have := length?_shorter foundLength
    rw [List.length_cons, ← same]
    simp only at *
    omega

theorem read?_shorter {s rest : Bytes} {header : Header} (h : read? s = some (header, rest)) :
    rest.length < s.length :=
  peek?_shorter (Option.filter_eq_some_iff.mp h).1

end Header

end LdapDecoy.Asn1
