/-!
# Checks in their order

Of checks that are made one after the other, the first one that fails says what is wrong; none is made behind it.
-/
namespace LdapDecoy

/-- The fault of the first check that fails. A check is given by the faults that it finds, none if it passes. -/
inductive FirstFault {φ : Type} : List (φ → Prop) → φ → Prop where
  | here {check : φ → Prop} {fault : φ} {later : List (φ → Prop)} (finds : check fault) :
      FirstFault (check :: later) fault
  | behind {check : φ → Prop} {fault : φ} {later : List (φ → Prop)} (passes : ∀ other, ¬ check other)
      (finds : FirstFault later fault) : FirstFault (check :: later) fault

namespace FirstFault

variable {φ : Type} {check : φ → Prop} {later : List (φ → Prop)} {own fault : φ}

theorem iff_of_passes (passes : ∀ other, ¬ check other) :
    FirstFault (check :: later) fault ↔ FirstFault later fault := by
  constructor
  · rintro (finds | ⟨_, finds⟩)
    · exact absurd finds (passes fault)
    · exact finds
  · exact .behind passes

theorem iff_of_finds (single : ∀ other, check other ↔ other = own) :
    FirstFault (check :: later) fault ↔ fault = own := by
  constructor
  · rintro (finds | ⟨passes, _⟩)
    · exact (single fault).mp finds
    · exact absurd ((single own).mpr rfl) (passes own)
  · exact fun same => .here ((single fault).mpr same)

theorem singleton_iff : FirstFault [check] fault ↔ check fault := by
  constructor
  · rintro (finds | ⟨_, ⟨⟩⟩)
    exact finds
  · exact .here

/-- A check with a single fault, in front of others. -/
theorem ite_iff {fails holds : Prop} [Decidable fails] {found : Option φ} (same : fails ↔ holds)
    (behind : found = some fault ↔ FirstFault later fault) :
    (if fails then some own else found) = some fault ↔
      FirstFault ((fun other => holds ∧ other = own) :: later) fault := by
  split
  · rename_i failed
    rw [iff_of_finds fun other => and_iff_right (same.mp failed), Option.some.injEq]
    exact eq_comm
  · rename_i passed
    rw [behind, iff_of_passes fun other finds => passed (same.mpr finds.1)]

end FirstFault

end LdapDecoy
