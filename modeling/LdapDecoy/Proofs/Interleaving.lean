import Mathlib.Algebra.BigOperators.Group.Finset.Piecewise
import Mathlib.Data.Fintype.Basic
import Mathlib.Logic.Function.Basic

/-!
# Interleavings

A list that is made of several others: each of its entries belongs to one of them, and the entries that belong
to one, in the order in which they stand, are all of that one.
-/
namespace LdapDecoy

variable {ι α β : Type} [DecidableEq ι]

/-- Whether a list is an interleaving of its parts. The tag of an entry says to which part it belongs. -/
def Interleaves (parts : ι → List α) (whole : List α) : Prop :=
  ∃ tagged : List (ι × α), tagged.map (·.2) = whole ∧
    ∀ i, (tagged.filter fun entry => entry.1 = i).map (·.2) = parts i

namespace Interleaves

variable {parts : ι → List α} {whole : List α}

theorem nil : Interleaves (fun _ : ι => ([] : List α)) [] := ⟨[], rfl, fun _ => rfl⟩

/-- What is added to one of the parts may be added to the whole. -/
theorem append (made : Interleaves parts whole) (i : ι) (more : List α) :
    Interleaves (Function.update parts i (parts i ++ more)) (whole ++ more) := by
  obtain ⟨tagged, rfl, split⟩ := made
  refine ⟨tagged ++ more.map (i, ·), ?_, ?_⟩
  · rw [List.map_append, List.map_map]
    exact congrArg _ (List.map_id more)
  · intro j
    rw [List.filter_append, List.map_append, split, List.filter_map]
    by_cases same : j = i
    · subst same
      rw [Function.update_self, List.filter_eq_self.mpr, List.map_map]
      · exact congrArg _ (List.map_id more)
      · exact fun _ _ => decide_eq_true rfl
    · rw [Function.update_of_ne same, List.filter_eq_nil_iff.mpr]
      · exact List.append_nil _
      · exact fun _ _ equal => same (of_decide_eq_true equal).symm

theorem map (made : Interleaves parts whole) (f : α → β) :
    Interleaves (fun i => (parts i).map f) (whole.map f) := by
  obtain ⟨tagged, rfl, split⟩ := made
  refine ⟨tagged.map fun entry => (entry.1, f entry.2), ?_, ?_⟩
  · rw [List.map_map, List.map_map]
    rfl
  · intro i
    dsimp only
    rw [← split i, List.filter_map, List.map_map, List.map_map]
    rfl

theorem filter (made : Interleaves parts whole) (p : α → Bool) :
    Interleaves (fun i => (parts i).filter p) (whole.filter p) := by
  obtain ⟨tagged, rfl, split⟩ := made
  refine ⟨tagged.filter fun entry => p entry.2, ?_, ?_⟩
  · rw [List.filter_map]
    rfl
  · intro i
    dsimp only
    rw [← split i, List.filter_map, List.filter_filter, List.filter_filter]
    exact congrArg _ (List.filter_congr fun _ _ => Bool.and_comm _ _)

/-- Nothing is lost, and nothing has come in. -/
theorem length_eq [Fintype ι] (made : Interleaves parts whole) : whole.length = ∑ i, (parts i).length := by
  obtain ⟨tagged, rfl, split⟩ := made
  simp only [← split, List.length_map, ← List.countP_eq_length_filter]
  clear split
  induction tagged with
  | nil => exact Finset.sum_const_zero.symm
  | cons entry rest ih =>
      simp only [List.countP_cons, decide_eq_true_eq, List.length_cons, Finset.sum_add_distrib,
        Finset.sum_ite_eq, Finset.mem_univ, if_true]
      rw [ih]

end Interleaves

end LdapDecoy
