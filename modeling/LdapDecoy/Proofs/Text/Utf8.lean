import LdapDecoy.Text.Utf8

/-!
# The width of texts in octets

Octets are counted character by character, which is how strings count them too. Of two texts that begin
the same text, the one with fewer octets begins the other.
-/
namespace LdapDecoy.Text.Utf8

theorem length_encodeChar (c : Char) : (encodeChar c).length = c.utf8Size := by
  have code : c.toNat = c.val.toNat := rfl
  unfold encodeChar Char.utf8Size
  simp only [UInt32.le_iff_toNat_le, UInt32.toNat_ofNatLT, code]
  repeat' split
  all_goals first
    | rfl
    | omega

theorem size_cons (c : Char) (s : List Char) : size (c :: s) = c.utf8Size + size s := by
  simp [size, encode, length_encodeChar]

theorem size_append (s t : List Char) : size (s ++ t) = size s + size t := by
  simp [size, encode]

theorem utf8ByteSize_ofList (s : List Char) : (String.ofList s).utf8ByteSize = size s := by
  induction s with
  | nil => rfl
  | cons c rest ih =>
      rw [String.ofList_cons, String.utf8ByteSize_append, String.utf8ByteSize_singleton, ih, size_cons]

theorem utf8ByteSize_eq (s : String) : s.utf8ByteSize = size s.toList := by
  rw [← utf8ByteSize_ofList, String.ofList_toList]

theorem size_le_of_begins {s t : List Char} (begins : s <+: t) : size s ≤ size t := by
  obtain ⟨rest, rfl⟩ := begins
  rw [size_append]
  exact Nat.le_add_right _ _

theorem eq_nil_of_size {s : List Char} (empty : size s = 0) : s = [] := by
  cases s with
  | nil => rfl
  | cons c rest =>
      have positive := Char.utf8Size_pos c
      rw [size_cons] at empty
      omega

/-- Nothing stands behind a beginning that is as wide as the whole. -/
theorem eq_of_begins_of_size {s t : List Char} (begins : s <+: t) (wide : size t ≤ size s) : s = t := by
  obtain ⟨rest, rfl⟩ := begins
  rw [size_append] at wide
  have nothing : rest = [] := eq_nil_of_size (by omega)
  rw [nothing, List.append_nil]

/-- Two beginnings of one text that are equally wide are equal. -/
theorem prefix_unique {s t whole : List Char} (left : s <+: whole) (right : t <+: whole)
    (wide : size s = size t) : s = t := by
  rcases Nat.le_total s.length t.length with shorter | longer
  · have begins := List.prefix_of_prefix_length_le left right shorter
    exact eq_of_begins_of_size begins (Nat.le_of_eq wide.symm)
  · have begins := List.prefix_of_prefix_length_le right left longer
    exact (eq_of_begins_of_size begins (Nat.le_of_eq wide)).symm

end LdapDecoy.Text.Utf8
