import LdapDecoy.Ldap.Filter.Text

/-!
# Filters and their parts

Filters nest in lists of filters. What is proved of a filter from its parts is proved of all of them by one induction,
and what is written of a list is written filter by filter. What is written is told apart by runs of characters, each of
which ends at the first character of another kind.
-/
namespace LdapDecoy

/-- Where a run of some kind of characters ends is seen by the first one of another kind. -/
theorem Text.span_unique {p : Char → Bool} {run run' rest rest' : List Char} {c d : Char}
    (left : ∀ e ∈ run, p e = true) (right : ∀ e ∈ run', p e = true) (stop : p c = false) (stop' : p d = false)
    (same : run ++ c :: rest = run' ++ d :: rest') : run = run' ∧ c = d ∧ rest = rest' := by
  induction run generalizing run' with
  | nil =>
      cases run' with
      | nil => simpa using same
      | cons e run' =>
          obtain ⟨rfl, _⟩ := List.cons.inj same
          rw [right c (.head _)] at stop
          cases stop
  | cons e run ih =>
      cases run' with
      | nil =>
          obtain ⟨rfl, _⟩ := List.cons.inj same
          rw [left e (.head _)] at stop'
          cases stop'
      | cons e' run' =>
          obtain ⟨rfl, further⟩ := List.cons.inj same
          rw [List.forall_mem_cons] at left right
          obtain ⟨rfl, tails⟩ := ih left.2 right.2 further
          exact ⟨rfl, tails⟩

namespace Ldap.Filter

/-- Induction over filters: what holds of a list of filters is that it holds of each of them. -/
@[induction_eliminator]
theorem induct {motive : Filter → Prop}
    (all : ∀ filters, (∀ filter ∈ filters, motive filter) → motive (.all filters))
    (any : ∀ filters, (∀ filter ∈ filters, motive filter) → motive (.any filters))
    (not : ∀ filter, motive filter → motive (.not filter))
    (equal : ∀ attr value, motive (.equal attr value))
    (substring : ∀ attr parts, motive (.substring attr parts))
    (greaterOrEqual : ∀ attr value, motive (.greaterOrEqual attr value))
    (lessOrEqual : ∀ attr value, motive (.lessOrEqual attr value))
    (present : ∀ attr, motive (.present attr))
    (approx : ∀ attr value, motive (.approx attr value))
    (extensible : ∀ rule, motive (.extensible rule)) (filter : Filter) : motive filter :=
  @Filter.rec motive (fun filters => ∀ filter ∈ filters, motive filter) all any not equal substring greaterOrEqual
    lessOrEqual present approx extensible (List.forall_mem_nil _)
    (fun _ _ first rest => List.forall_mem_cons.mpr ⟨first, rest⟩) filter

theorem displays_eq (filters : List Filter) : displays filters = filters.map display := by
  induction filters with
  | nil => rfl
  | cons filter filters ih => rw [displays, ih, List.map_cons]

mutual

/-- A filter and the filters inside it. -/
def parts : Filter → List Filter
  | .all filters => .all filters :: partsOfAll filters
  | .any filters => .any filters :: partsOfAll filters
  | .not filter => .not filter :: filter.parts
  | filter => [filter]

def partsOfAll : List Filter → List Filter
  | [] => []
  | filter :: filters => filter.parts ++ partsOfAll filters

end

theorem partsOfAll_eq (filters : List Filter) : partsOfAll filters = filters.flatMap parts := by
  induction filters with
  | nil => rfl
  | cons filter filters ih => rw [partsOfAll, ih, List.flatMap_cons]

theorem self_mem_parts (filter : Filter) : filter ∈ filter.parts := by
  cases filter <;> simp [parts]

end Ldap.Filter

end LdapDecoy
