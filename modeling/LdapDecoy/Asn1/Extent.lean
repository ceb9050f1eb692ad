import LdapDecoy.Asn1.Header

/-!
# Extents of elements

How far an element reaches, without a look at what its content means. Each header must show itself in the next
few octets. Where content ends with a mark, any empty element with the number of the mark is one. What is looked
at beyond the last octet is zero.
-/
namespace LdapDecoy.Asn1

/-- How many octets are looked at for a header. -/
def window : Nat := 8

/-- The header at the head of some octets and what is behind it, if it shows itself in the window. -/
def header? (s : Bytes) : Option (Header × Bytes) :=
  (Header.peek? (s.take window)).bind fun (header, rest) =>
    let behind := rest ++ s.drop window
    if header.isConstructed || header.length.isSome then some (header, behind) else none

theorem header?_shorter {s rest : Bytes} {header : Header} (h : header? s = some (header, rest)) :
    rest.length < s.length := by
  simp only [header?, Option.bind_eq_some_iff] at h
  obtain ⟨⟨found, behind⟩, peeked, h⟩ := h
  have shorter := Header.peek?_shorter peeked
  split at h
  · simp only [Option.some.injEq, Prod.mk.injEq] at h
    rw [← h.2, List.length_append]
    rw [List.length_take] at shorter
    rw [List.length_drop]
    omega
  · contradiction

/-- How many octets are looked at for an element at the head of some octets, behind others, and for the ends of
so many elements that it lies in. -/
def reach? (count before : Nat) (s : Bytes) : Option Nat :=
  match h : header? s with
  | none => none
  | some (header, rest) =>
    have := header?_shorter h
    let start := before + (s.length - rest.length)
    match count, header.length with
    | count, none => reach? (count + 1) start rest
    | 0, some length =>
      if length ≤ rest.length then some (Nat.max (before + window) (start + length)) else none
    | count + 1, some length =>
      if length = 0 ∧ header.tag.number = 0 then
        if count = 0 then some (before + window) else reach? count start rest
      else if length ≤ rest.length then reach? (count + 1) (start + length) (rest.drop length)
      else none
termination_by s.length
decreasing_by
  · assumption
  · assumption
  · rw [List.length_drop]
    omega

/-- The octets that are looked at for the element at the head of some octets. -/
def firstElement? (s : Bytes) : Option Bytes :=
  (reach? 0 0 s).map fun count => (s ++ List.replicate window 0).take count

end LdapDecoy.Asn1
