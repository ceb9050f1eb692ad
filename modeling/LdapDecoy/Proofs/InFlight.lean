import LdapDecoy.InFlight

/-!
# What is in flight

Which requests are tracked, whatever their flags: beginning and finishing decide it, and abandoning does not
change it. And what the table says of a single request: each of the three acts on its own request alone.
-/
namespace LdapDecoy.InFlight
open Ldap

/-- The requests in flight. -/
def ids (inFlight : InFlight) : List MessageId := inFlight.flags.map (·.1)

theorem ids_finish (inFlight : InFlight) (id : MessageId) :
    (inFlight.finish id).ids = inFlight.ids.filter (· ≠ id) := by
  rw [ids, ids, finish, List.filter_map]
  rfl

/-- Abandoning a request changes its flag and nothing else. -/
theorem ids_abandon (inFlight : InFlight) (id : MessageId) : (inFlight.abandon id).ids = inFlight.ids := by
  rw [ids, ids, abandon, List.map_map]
  apply List.map_congr_left
  intro entry member
  change (if entry.1 = id then (id, true) else entry).1 = entry.1
  split
  · rename_i same
    exact same.symm
  · rfl

theorem eq_none_of_ids {inFlight : InFlight} (empty : inFlight.ids = []) : inFlight = none := by
  obtain ⟨flags⟩ := inFlight
  exact congrArg InFlight.mk (List.map_eq_nil_iff.mp empty)

/-- Nothing is in flight when the only request has been finished. -/
theorem finish_of_ids {inFlight : InFlight} {id : MessageId} (alone : inFlight.ids = [id]) :
    inFlight.finish id = none := by
  apply eq_none_of_ids
  rw [ids_finish, alone]
  simp

/-- A request that has just begun is not abandoned. -/
theorem isAbandoned_begin (inFlight : InFlight) (id : MessageId) :
    (inFlight.begin id).isAbandoned id = false := by
  rw [isAbandoned, begin, List.lookup_cons_self]
  rfl

/-! ## One request -/

/-- The flag of a request, if it is in flight. -/
def flag? (inFlight : InFlight) (id : MessageId) : Option Bool := inFlight.flags.lookup id

theorem isAbandoned_eq (inFlight : InFlight) (id : MessageId) :
    inFlight.isAbandoned id = (inFlight.flag? id).getD false := rfl

theorem contains_eq (inFlight : InFlight) (id : MessageId) :
    inFlight.contains id = (inFlight.flag? id).isSome := by
  rw [contains, flag?, Bool.eq_iff_iff, List.any_eq_true, List.lookup_isSome_iff]
  constructor
  · rintro ⟨entry, member, same⟩
    exact ⟨entry, member, beq_iff_eq.mpr (of_decide_eq_true same).symm⟩
  · rintro ⟨entry, member, same⟩
    exact ⟨entry, member, decide_eq_true (beq_iff_eq.mp same).symm⟩

theorem flag?_cons (key : MessageId) (flag : Bool) (flags : List (MessageId × Bool)) (other : MessageId) :
    flag? ⟨(key, flag) :: flags⟩ other = if other = key then some flag else flag? ⟨flags⟩ other := by
  rw [flag?, List.lookup_cons]
  by_cases here : other = key
  · rw [if_pos here, beq_iff_eq.mpr here]
  · rw [if_neg here, beq_eq_false_iff_ne.mpr here]
    rfl

theorem flag?_finish (inFlight : InFlight) (id other : MessageId) :
    (inFlight.finish id).flag? other = if other = id then Option.none else inFlight.flag? other := by
  obtain ⟨flags⟩ := inFlight
  induction flags with
  | nil => exact (ite_self _).symm
  | cons entry flags ih =>
      obtain ⟨key, flag⟩ := entry
      by_cases mine : key = id
      · have dropped : finish ⟨(key, flag) :: flags⟩ id = finish ⟨flags⟩ id :=
          congrArg InFlight.mk (List.filter_cons_of_neg (by simp [mine]))
        rw [dropped, ih, flag?_cons, mine]
        split <;> rfl
      · have kept : finish ⟨(key, flag) :: flags⟩ id = ⟨(key, flag) :: (finish ⟨flags⟩ id).flags⟩ :=
          congrArg InFlight.mk (List.filter_cons_of_pos (by simp [mine]))
        rw [kept, flag?_cons, ih, flag?_cons]
        grind

theorem flag?_begin (inFlight : InFlight) (id other : MessageId) :
    (inFlight.begin id).flag? other = if other = id then some false else inFlight.flag? other := by
  rw [begin, flag?_cons]
  split
  · rfl
  · rename_i others
    exact (inFlight.flag?_finish id other).trans (if_neg others)

theorem flag?_abandon (inFlight : InFlight) (id other : MessageId) :
    (inFlight.abandon id).flag? other =
      if other = id then (inFlight.flag? other).map fun _ => true else inFlight.flag? other := by
  obtain ⟨flags⟩ := inFlight
  induction flags with
  | nil => exact (ite_self _).symm
  | cons entry flags ih =>
      obtain ⟨key, flag⟩ := entry
      by_cases mine : key = id
      · have set : abandon ⟨(key, flag) :: flags⟩ id = ⟨(id, true) :: (abandon ⟨flags⟩ id).flags⟩ :=
          congrArg (fun entry => InFlight.mk (entry :: (abandon ⟨flags⟩ id).flags)) (if_pos mine)
        rw [set, flag?_cons, ih, flag?_cons, mine]
        grind
      · have kept : abandon ⟨(key, flag) :: flags⟩ id = ⟨(key, flag) :: (abandon ⟨flags⟩ id).flags⟩ :=
          congrArg (fun entry => InFlight.mk (entry :: (abandon ⟨flags⟩ id).flags)) (if_neg mine)
        rw [kept, flag?_cons, ih, flag?_cons]
        grind

end LdapDecoy.InFlight
