import LdapDecoy.Proofs.Acts
import LdapDecoy.Storage.Memory

/-!
# What memory holds

The keys of memory ascend, so that adding under one of them finds what is held there; and what is held under a key
is the data of the offers with this key, oldest first.
-/
namespace LdapDecoy.Storage.Memory

/-- Whether the keys of a table ascend. -/
def Ascends (entries : List (String × List Bytes)) : Prop := entries.Pairwise fun a b => a.1 < b.1

section
variable {key : String} {data : Bytes}

theorem keys_insert {entries : List (String × List Bytes)} {entry : String × List Bytes}
    (among : entry ∈ insert key data entries) : entry.1 = key ∨ ∃ held ∈ entries, entry.1 = held.1 := by
  fun_induction insert key data entries with
  | case1 =>
      rw [List.mem_singleton.mp among]
      exact .inl rfl
  | case2 held rest =>
      rcases List.mem_cons.mp among with rfl | among
      · exact .inl rfl
      · exact .inr ⟨entry, .tail _ among, rfl⟩
  | case3 k held rest other smaller =>
      rcases List.mem_cons.mp among with rfl | among
      · exact .inl rfl
      · exact .inr ⟨entry, among, rfl⟩
  | case4 k held rest other larger ih =>
      rcases List.mem_cons.mp among with rfl | among
      · exact .inr ⟨(k, held), .head _, rfl⟩
      · rcases ih among with same | ⟨found, inRest, same⟩
        · exact .inl same
        · exact .inr ⟨found, .tail _ inRest, same⟩

theorem lt_of_not_lt {k : String} (other : key ≠ k) (larger : ¬ key < k) : k < key := by
  apply String.not_le.mp
  intro least
  exact other (String.le_antisymm least (String.not_lt.mp larger))

theorem ascends_insert {entries : List (String × List Bytes)} (ascends : Ascends entries) :
    Ascends (insert key data entries) := by
  fun_induction insert key data entries with
  | case1 => exact List.pairwise_singleton _ _
  | case2 held rest =>
      obtain ⟨above, rest⟩ := List.pairwise_cons.mp ascends
      exact List.pairwise_cons.mpr ⟨above, rest⟩
  | case3 k held rest other smaller =>
      refine List.pairwise_cons.mpr ⟨?_, ascends⟩
      intro entry among
      rcases List.mem_cons.mp among with rfl | among
      · exact smaller
      · exact String.lt_trans smaller (List.rel_of_pairwise_cons ascends among)
  | case4 k held rest other larger ih =>
      obtain ⟨above, inRest⟩ := List.pairwise_cons.mp ascends
      refine List.pairwise_cons.mpr ⟨?_, ih inRest⟩
      intro entry among
      rcases keys_insert among with same | ⟨found, among, same⟩
      · rw [same]
        exact lt_of_not_lt other larger
      · rw [same]
        exact above found among

/-- What a table holds under a key. -/
def held (entries : List (String × List Bytes)) (k : String) : List Bytes := (entries.lookup k).getD []

theorem held_cons (k : String) (data : List Bytes) (rest : List (String × List Bytes)) (wanted : String) :
    held ((k, data) :: rest) wanted = if wanted = k then data else held rest wanted := by
  rw [held, List.lookup_cons]
  by_cases same : wanted = k
  · rw [if_pos same, beq_iff_eq.mpr same]
    rfl
  · rw [if_neg same, beq_eq_false_iff_ne.mpr same]
    rfl

/-- A key that stands in front of a table is not in it. -/
theorem held_of_above {entries : List (String × List Bytes)} (above : ∀ entry ∈ entries, key < entry.1) :
    held entries key = [] := by
  have missing : entries.lookup key = none := by
    apply List.lookup_eq_none_iff.mpr
    intro entry among
    exact bne_iff_ne.mpr (String.ne_of_lt (above entry among))
  rw [held, missing]
  rfl

/-- Adding under a key puts the data behind what is held there, and nothing else. -/
theorem held_insert {entries : List (String × List Bytes)} (ascends : Ascends entries) (wanted : String) :
    held (insert key data entries) wanted =
      if wanted = key then held entries wanted ++ [data] else held entries wanted := by
  fun_induction insert key data entries with
  | case1 =>
      rw [held_cons]
      split <;> rfl
  | case2 inFront rest =>
      rw [held_cons, held_cons]
      split <;> rfl
  | case3 k inFront rest other smaller =>
      rw [held_cons]
      by_cases same : wanted = key
      · -- the key is new, for all keys of the table are larger
        have above : ∀ entry ∈ (k, inFront) :: rest, key < entry.1 := by
          intro entry among
          rcases List.mem_cons.mp among with rfl | among
          · exact smaller
          · exact String.lt_trans smaller (List.rel_of_pairwise_cons ascends among)
        rw [if_pos same, if_pos same, same, held_of_above above]
        rfl
      · rw [if_neg same, if_neg same]
  | case4 k inFront rest other larger ih =>
      have found := ih (List.pairwise_cons.mp ascends).2
      rw [held_cons, held_cons, found]
      by_cases same : wanted = k
      · have notKey : ¬ wanted = key := by
          rw [same]
          exact fun equal => other equal.symm
        rw [if_pos same, if_pos same, if_neg notKey]
      · rw [if_neg same, if_neg same]

end

/-! ## Offers -/

theorem get_add {memory : Memory} (ascends : Ascends memory.entries) (key : String) (data : Bytes)
    (wanted : String) :
    (memory.add key data).get wanted =
      if wanted = key then memory.get wanted ++ [data] else memory.get wanted :=
  held_insert ascends wanted

/-- The data that some offers put under a key. -/
def under (key : String) (offers : List Offer) : List Bytes :=
  (offers.filter fun offer => offer.key = key).map (·.data)

/-- Under each key memory holds the data of the offers with this key, oldest first. -/
theorem get_addAll {memory : Memory} (ascends : Ascends memory.entries) (offers : List Offer) (key : String) :
    (Storage.addAll offers memory).get key = memory.get key ++ under key offers := by
  induction offers generalizing memory with
  | nil => exact (List.append_nil _).symm
  | cons offer rest ih =>
      have further : Ascends (memory.add offer.key offer.data).entries := ascends_insert ascends
      change (Storage.addAll rest (memory.add offer.key offer.data)).get key = _
      rw [ih further, get_add ascends, under, under, List.filter_cons]
      by_cases same : offer.key = key
      · rw [if_pos same.symm, if_pos (decide_eq_true same), List.map_cons, List.append_assoc]
        rfl
      · rw [if_neg fun equal => same equal.symm, if_neg fun equal => same (of_decide_eq_true equal)]

theorem get_addAll_empty (offers : List Offer) (key : String) :
    (Storage.addAll offers empty).get key = under key offers :=
  get_addAll List.Pairwise.nil offers key

/-! ## Under all keys -/

theorem size_add (memory : Memory) (key : String) (data : Bytes) :
    (memory.add key data).size = memory.size + 1 := by
  obtain ⟨entries⟩ := memory
  change size ⟨insert key data entries⟩ = _
  fun_induction insert key data entries with
  | case1 => rfl
  | case2 held rest =>
      simp only [size, List.foldr_cons, List.length_append, List.length_singleton]
      omega
  | case3 k held rest other smaller =>
      simp only [size, List.foldr_cons, List.length_singleton]
      omega
  | case4 k held rest other larger ih =>
      simp only [size, List.foldr_cons] at ih ⊢
      omega

/-- Memory holds as many pieces of data as have been offered to it. -/
theorem size_addAll (offers : List Offer) (memory : Memory) :
    (Storage.addAll offers memory).size = memory.size + offers.length := by
  induction offers generalizing memory with
  | nil => rfl
  | cons offer rest ih =>
      change (Storage.addAll rest (memory.add offer.key offer.data)).size = _
      rw [ih, size_add, List.length_cons]
      omega

theorem size_addAll_empty (offers : List Offer) : (Storage.addAll offers empty).size = offers.length :=
  (size_addAll offers empty).trans (Nat.zero_add _)

/-! ## Under all keys but one -/

/-- The data under all keys but one. -/
def apart (memory : Memory) (key : String) : List Bytes :=
  (memory.entries.filter fun entry => entry.1 ≠ key).flatMap (·.2)

theorem apart_cons_self (key : String) (data : List Bytes) (rest : List (String × List Bytes)) :
    apart ⟨(key, data) :: rest⟩ key = apart ⟨rest⟩ key := by
  rw [apart, List.filter_cons_of_neg]
  · rfl
  · exact fun differs => of_decide_eq_true differs rfl

theorem apart_cons_of_ne {k key : String} (differs : k ≠ key) (data : List Bytes)
    (rest : List (String × List Bytes)) : apart ⟨(k, data) :: rest⟩ key = data ++ apart ⟨rest⟩ key := by
  rw [apart, List.filter_cons, if_pos (decide_eq_true differs), List.flatMap_cons]
  rfl

/-- What is added under a key is not apart from it. -/
theorem apart_add_self (memory : Memory) (key : String) (data : Bytes) :
    (memory.add key data).apart key = memory.apart key := by
  obtain ⟨entries⟩ := memory
  change apart ⟨insert key data entries⟩ key = _
  fun_induction insert key data entries with
  | case1 => exact apart_cons_self key [data] []
  | case2 held rest => rw [apart_cons_self, apart_cons_self]
  | case3 k held rest other smaller => exact apart_cons_self key [data] _
  | case4 k held rest other larger ih =>
      have differs : k ≠ key := fun same => other same.symm
      rw [apart_cons_of_ne differs, apart_cons_of_ne differs, ih]

/-- What is added under another key is apart from it, somewhere. -/
theorem apart_add_of_ne {key other : String} (differs : key ≠ other) (memory : Memory) (data : Bytes) :
    ((memory.add key data).apart other).Perm (data :: memory.apart other) := by
  obtain ⟨entries⟩ := memory
  change (apart ⟨insert key data entries⟩ other).Perm _
  fun_induction insert key data entries with
  | case1 =>
      rw [apart_cons_of_ne differs]
      exact List.Perm.refl _
  | case2 held rest =>
      rw [apart_cons_of_ne differs, apart_cons_of_ne differs, List.append_assoc]
      exact List.perm_middle
  | case3 k held rest differs' smaller =>
      rw [apart_cons_of_ne differs]
      exact List.Perm.refl _
  | case4 k held rest differs' larger ih =>
      by_cases same : k = other
      · rw [same, apart_cons_self, apart_cons_self]
        exact ih
      · rw [apart_cons_of_ne same, apart_cons_of_ne same]
        exact (ih.append_left held).trans List.perm_middle

end LdapDecoy.Storage.Memory
