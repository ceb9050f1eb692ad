import LdapDecoy.Proofs.Json.Scan
import LdapDecoy.Text.Blank

/-!
# White space around a text

Trimming takes away all the white space at the ends of a text, and nothing else.
-/
namespace LdapDecoy.Text

/-- Behind a character that is no white space, all of it is trimmed. -/
theorem trimEnd_append {front back : List Char} (ends : ∀ c, front.getLast? = some c → isBlank c = false)
    (blanks : ∀ c ∈ back, isBlank c = true) : trimEnd (front ++ back) = front := by
  have stays : front.reverse.dropWhile isBlank = front.reverse := by
    refine Json.dropWhile_of_head? fun c first => ends c ?_
    rw [← List.head?_reverse]
    exact first
  have dropped : (back.reverse ++ front.reverse).dropWhile isBlank = front.reverse := by
    rw [List.dropWhile_append_of_pos fun c among => blanks c (List.mem_reverse.mp among), stays]
  rw [trimEnd, List.reverse_append, dropped, List.reverse_reverse]

theorem exists_trimEnd (s : List Char) : ∃ front back, s = front ++ back ∧ trimEnd s = front ∧
    (∀ c ∈ back, isBlank c = true) ∧ ∀ c, front.getLast? = some c → isBlank c = false := by
  obtain ⟨back, front, reversed, blanks, stops⟩ := Json.exists_span isBlank s.reverse
  have behind : ∀ c ∈ back.reverse, isBlank c = true := fun c among => blanks c (List.mem_reverse.mp among)
  have ends : ∀ c, front.reverse.getLast? = some c → isBlank c = false := by
    intro c last
    rw [List.getLast?_reverse] at last
    obtain ⟨more, same⟩ := List.head?_eq_some_iff.mp last
    exact stops c more same
  have whole : s = front.reverse ++ back.reverse := by
    rw [← List.reverse_append, ← reversed, List.reverse_reverse]
  exact ⟨_, _, whole, whole ▸ trimEnd_append ends behind, behind, ends⟩

/-- What is trimmed stands between blanks, and neither begins nor ends with one. -/
theorem exists_trim (s : List Char) : ∃ front back, s = front ++ trim s ++ back ∧
    (∀ c ∈ front ++ back, isBlank c = true) ∧ (∀ c, (trim s).head? = some c → isBlank c = false) ∧
      ∀ c, (trim s).getLast? = some c → isBlank c = false := by
  obtain ⟨front, back, whole, trimmed, behind, ends⟩ := exists_trimEnd (trimStart s)
  have inside : trim s = front := trimmed
  have before : ∀ c ∈ s.takeWhile isBlank, isBlank c = true := List.all_eq_true.mp List.all_takeWhile
  refine ⟨s.takeWhile isBlank, back, ?_, List.forall_mem_append.mpr ⟨before, behind⟩, ?_, inside ▸ ends⟩
  · rw [inside, List.append_assoc, ← whole]
    exact List.takeWhile_append_dropWhile.symm
  · intro c first
    have starts : (s.dropWhile isBlank).head? = some c := by
      change (trimStart s).head? = some c
      rw [inside] at first
      rw [whole, List.head?_append, first]
      rfl
    have solid := List.head?_dropWhile_not isBlank s
    rw [starts] at solid
    simpa using solid

/-- Nothing is left of a text of blanks, and of no other. -/
theorem trim_eq_nil_iff {s : List Char} : trim s = [] ↔ ∀ c ∈ s, isBlank c = true := by
  obtain ⟨front, back, whole, blanks, begins, _⟩ := exists_trim s
  constructor
  · intro none
    rw [whole, none, List.append_nil]
    exact blanks
  · intro all
    cases inside : trim s with
    | nil => rfl
    | cons c rest =>
        have among : c ∈ s := by
          rw [whole, inside]
          simp
        have solid := begins c (by rw [inside]; rfl)
        rw [all c among] at solid
        cases solid

end LdapDecoy.Text
