import LdapDecoy.Proofs.Correlation.Extraction

/-!
# Identifiers that are found, and their keys

An identifier that is found in a base is 33 octets wide, and the last part of its full form. Its key begins it and
is 20 octets wide, unless the 20th octet ends inside a character; then it is the whole identifier.
-/
namespace LdapDecoy.Correlation
open Text.Utf8 (size)

theorem cut?_sound {n : Nat} {s leading : List Char} (cut : cut? n s = some leading) :
    leading <+: s ∧ size leading = n := by
  induction s generalizing n leading with
  | nil =>
      cases n with
      | zero =>
          cases cut
          exact ⟨List.prefix_refl [], rfl⟩
      | succ n => cases cut
  | cons c rest ih =>
      cases n with
      | zero =>
          cases cut
          exact ⟨List.nil_prefix, rfl⟩
      | succ n =>
          rw [cut?] at cut
          split at cut
          · rename_i fits
            obtain ⟨further, found, rfl⟩ := Option.map_eq_some_iff.mp cut
            obtain ⟨begins, wide⟩ := ih found
            rw [Text.Utf8.length_encodeChar] at fits wide
            refine ⟨List.cons_prefix_cons.mpr ⟨rfl, begins⟩, ?_⟩
            rw [Text.Utf8.size_cons, wide]
            omega
          · cases cut

/-- A key begins the identifier that it is of. -/
theorem key_begins (uniqueId : String) : (key uniqueId).toList <+: uniqueId.toList := by
  unfold key
  split
  · rename_i leading cut
    rw [String.toList_ofList]
    exact (cut?_sound cut).1
  · exact List.prefix_refl _

theorem key_width (uniqueId : String) : (key uniqueId).utf8ByteSize = 20 ∨ key uniqueId = uniqueId := by
  unfold key
  split
  · rename_i leading cut
    rw [Text.Utf8.utf8ByteSize_ofList]
    exact .inl (cut?_sound cut).2
  · exact .inr rfl

/-- What the identifier of a probe is like. -/
structure IsProbe (identifier : Identifier) : Prop where
  wide : identifier.uniqueId.utf8ByteSize = 33
  last : identifier.fullId = identifier.uniqueId ∨
    ∃ front, identifier.fullId = front ++ "." ++ identifier.uniqueId

/-- What is joined by dots ends in its last part. -/
theorem intercalate_last (before : List (List Char)) (part : List Char) :
    List.intercalate ['.'] (before ++ [part]) = part ∨
      ∃ front, List.intercalate ['.'] (before ++ [part]) = front ++ '.' :: part := by
  induction before with
  | nil =>
      left
      simp
  | cons first before ih =>
      right
      obtain ⟨second, more, same⟩ := List.exists_cons_of_ne_nil (show before ++ [part] ≠ [] by simp)
      have joined : List.intercalate ['.'] (first :: before ++ [part]) =
          first ++ '.' :: List.intercalate ['.'] (before ++ [part]) := by
        rw [List.cons_append, same]
        simp
      rw [joined]
      rcases ih with alone | ⟨front, behind⟩
      · rw [alone]
        exact ⟨first, rfl⟩
      · rw [behind]
        exact ⟨first ++ '.' :: front, by simp⟩

theorem ofParts_isProbe {part : List Char} (wide : hasIdentifierWidth part = true)
    (before : List (List Char)) : IsProbe (.ofParts before part) := by
  refine ⟨(hasIdentifierWidth_iff part).mp wide, ?_⟩
  rcases intercalate_last before part with alone | ⟨front, behind⟩
  · left
    exact congrArg String.ofList alone
  · right
    refine ⟨String.ofList front, ?_⟩
    apply String.toList_injective
    simp [Identifier.ofParts, behind]

theorem extract_isProbe {domain base : String} {identifier : Identifier}
    (found : extract domain base = some identifier) : IsProbe identifier := by
  rw [extract_eq] at found
  split at found
  · cases found
  · obtain ⟨⟨before, part⟩, picked, rfl⟩ := Option.map_eq_some_iff.mp found
    obtain ⟨_, _, wide, _⟩ := last?_sound picked
    exact ofParts_isProbe wide before

/-- The key of a probe is of a width that tells it from every key of another one. -/
theorem key_ne_of_width {identifier : Identifier} (probe : IsProbe identifier) {other : String}
    (notCut : other.utf8ByteSize ≠ 20) (notWhole : other.utf8ByteSize ≠ 33) : identifier.key ≠ other := by
  intro same
  rcases key_width identifier.uniqueId with cut | whole
  · rw [show key identifier.uniqueId = other from same] at cut
    exact notCut cut
  · rw [show key identifier.uniqueId = other from same] at whole
    rw [whole] at notWhole
    exact notWhole probe.wide

end LdapDecoy.Correlation
