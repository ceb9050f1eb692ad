import LdapDecoy.Correlation

/-!
# Runs of labels

What the search for a run finds: behind the labels stands the domain, no run at the same place has more of
them, and in front of the place no run begins. A text with a label at its head has only that one, so the
runs at one place are the beginnings of the longest.
-/
namespace LdapDecoy.Correlation

/-- A label: at least one character, and only small letters, digits and hyphens. -/
structure IsLabel (label : List Char) : Prop where
  nonempty : label ≠ []
  chars : ∀ c ∈ label, ('a' ≤ c ∧ c ≤ 'z') ∨ ('0' ≤ c ∧ c ≤ '9') ∨ c = '-'

/-- Labels with a dot behind each. -/
def dotted (labels : List (List Char)) : List Char := labels.flatMap fun label => label ++ ['.']

/-- One or more labels. -/
structure AreLabels (labels : List (List Char)) : Prop where
  nonempty : labels ≠ []
  labels : ∀ label ∈ labels, IsLabel label

theorem dotted_cons (label : List Char) (labels : List (List Char)) :
    dotted (label :: labels) = label ++ '.' :: dotted labels := by
  simp [dotted]

theorem dotted_append (labels more : List (List Char)) :
    dotted (labels ++ more) = dotted labels ++ dotted more := by
  simp [dotted]

theorem dotted_cons_begins (label rest domain : List Char) (labels : List (List Char)) :
    dotted (label :: labels) ++ domain <+: label ++ '.' :: rest ↔ dotted labels ++ domain <+: rest := by
  rw [dotted_cons, List.append_assoc, List.cons_append, List.prefix_append_right_inj,
    List.cons_prefix_cons]
  simp

theorem isLabelChar_iff (c : Char) :
    isLabelChar c = true ↔ ('a' ≤ c ∧ c ≤ 'z') ∨ ('0' ≤ c ∧ c ≤ '9') ∨ c = '-' := by
  simp [isLabelChar, or_assoc]

instance (label : List Char) : Decidable (IsLabel label) :=
  decidable_of_iff (label ≠ [] ∧ label.all isLabelChar = true)
    ⟨fun ⟨nonempty, chars⟩ => ⟨nonempty, fun c among => (isLabelChar_iff c).mp (List.all_eq_true.mp chars c among)⟩,
      fun isLabel => ⟨isLabel.nonempty,
        List.all_eq_true.mpr fun c among => (isLabelChar_iff c).mpr (isLabel.chars c among)⟩⟩

theorem dot_not_label : isLabelChar '.' = false := by decide

theorem IsLabel.no_dot {label : List Char} (isLabel : IsLabel label) : '.' ∉ label := by
  intro dot
  have labelled := (isLabelChar_iff '.').mpr (isLabel.chars _ dot)
  rw [dot_not_label] at labelled
  cases labelled

theorem isLabel_of_label? {s label rest : List Char} (found : label? s = some (label, rest)) :
    IsLabel label := by
  unfold label? at found
  split at found
  · rename_i first more behind taken _
    simp only [Option.some.injEq, Prod.mk.injEq] at found
    obtain ⟨rfl, rfl⟩ := found
    refine ⟨List.cons_ne_nil _ _, ?_⟩
    intro c member
    rw [← taken] at member
    exact (isLabelChar_iff c).mp (List.all_eq_true.mp List.all_takeWhile c member)
  · cases found

/-- A label that stands at the head of a text is the one that is read there. -/
theorem label?_label {label : List Char} (isLabel : IsLabel label) (rest : List Char) :
    label? (label ++ '.' :: rest) = some (label, rest) := by
  have labelled : ∀ c ∈ label, isLabelChar c = true := fun c member =>
    (isLabelChar_iff c).mpr (isLabel.chars c member)
  have taken : (label ++ '.' :: rest).takeWhile isLabelChar = label := by
    rw [List.takeWhile_append_of_pos labelled, List.takeWhile_cons, dot_not_label]
    simp
  have dropped : (label ++ '.' :: rest).dropWhile isLabelChar = '.' :: rest := by
    rw [List.dropWhile_append_of_pos labelled, List.dropWhile_cons, dot_not_label]
    simp
  obtain ⟨first, more, rfl⟩ := List.exists_cons_of_ne_nil isLabel.nonempty
  unfold label?
  rw [taken, dropped]
  rfl

theorem runAt?_of_label? {domain s label rest : List Char} (found : label? s = some (label, rest)) :
    runAt? domain s =
      match runAt? domain rest with
      | some labels => some (label :: labels)
      | none => if domain.isPrefixOf rest then some [label] else none := by
  rw [runAt?]
  split
  · rename_i missing
    rw [missing] at found
    cases found
  · rename_i other behind equation
    rw [equation] at found
    cases found
    rfl

theorem runAt?_of_no_label {domain s : List Char} (missing : label? s = none) :
    runAt? domain s = none := by
  rw [runAt?]
  split
  · rfl
  · rename_i equation
    rw [equation] at missing
    cases missing

/-- Behind the labels that are found, the domain stands. -/
theorem runAt?_sound {domain s : List Char} {labels : List (List Char)}
    (found : runAt? domain s = some labels) :
    AreLabels labels ∧ dotted labels ++ domain <+: s := by
  induction s using WellFounded.induction (measure List.length).wf generalizing labels with
  | h s ih =>
      cases first : label? s with
      | none =>
          rw [runAt?_of_no_label first] at found
          cases found
      | some entry =>
          obtain ⟨label, rest⟩ := entry
          have isLabel := isLabel_of_label? first
          rw [runAt?_of_label? first] at found
          rw [label?_eq first]
          cases later : runAt? domain rest with
          | some more =>
              simp only [later, Option.some.injEq] at found
              obtain ⟨areLabels, begins⟩ := ih rest (label?_shorter first) later
              subst found
              refine ⟨⟨List.cons_ne_nil _ _, ?_⟩, (dotted_cons_begins _ _ _ _).mpr begins⟩
              exact List.forall_mem_cons.mpr ⟨isLabel, areLabels.labels⟩
          | none =>
              simp only [later] at found
              split at found
              · rename_i begins
                cases found
                refine ⟨⟨List.cons_ne_nil _ _, List.forall_mem_singleton.mpr isLabel⟩, ?_⟩
                exact (dotted_cons_begins _ _ _ _).mpr (List.isPrefixOf_iff_prefix.mp begins)
              · cases found

/-- A run at a place begins the one that is found there. -/
theorem runAt?_longest {domain s : List Char} {labels : List (List Char)} (areLabels : AreLabels labels)
    (stands : dotted labels ++ domain <+: s) : ∃ more, runAt? domain s = some (labels ++ more) := by
  induction labels generalizing s with
  | nil => exact absurd rfl areLabels.nonempty
  | cons label labels ih =>
      obtain ⟨isLabel, isLabels⟩ := List.forall_mem_cons.mp areLabels.labels
      obtain ⟨behind, rfl⟩ := stands
      have first : label? (dotted (label :: labels) ++ domain ++ behind) =
          some (label, dotted labels ++ domain ++ behind) := by
        rw [dotted_cons]
        simpa using label?_label isLabel (dotted labels ++ domain ++ behind)
      rw [runAt?_of_label? first]
      cases labels with
      | nil =>
          have begins : domain.isPrefixOf (dotted [] ++ domain ++ behind) = true :=
            List.isPrefixOf_iff_prefix.mpr (List.prefix_append domain behind)
          cases runAt? domain (dotted [] ++ domain ++ behind) with
          | some more => exact ⟨more, rfl⟩
          | none => exact ⟨[], if_pos begins⟩
      | cons second others =>
          obtain ⟨more, found⟩ := ih ⟨List.cons_ne_nil _ _, isLabels⟩ (List.prefix_append _ behind)
          rw [found]
          exact ⟨more, rfl⟩

/-- The run that is found stands at a place in front of which no run begins. -/
theorem run?_eq_some {domain s : List Char} {labels : List (List Char)}
    (found : run? domain s = some labels) :
    ∃ before rest, s = before ++ rest ∧ runAt? domain rest = some labels ∧
      ∀ earlier later, s = earlier ++ later → runAt? domain later ≠ none →
        before.length ≤ earlier.length := by
  induction s with
  | nil => cases found
  | cons c rest ih =>
      rw [run?] at found
      cases here : runAt? domain (c :: rest) with
      | some others =>
          rw [here] at found
          cases found
          exact ⟨[], c :: rest, rfl, here, fun _ _ _ _ => Nat.zero_le _⟩
      | none =>
          rw [here] at found
          obtain ⟨before, behind, rfl, there, leftmost⟩ := ih found
          refine ⟨c :: before, behind, rfl, there, ?_⟩
          intro earlier later split begins
          cases earlier with
          | nil =>
              rw [List.nil_append] at split
              rw [← split] at begins
              exact absurd here begins
          | cons d earlier =>
              injection split with _ split
              exact Nat.succ_le_succ (leftmost earlier later split begins)

theorem run?_eq_none {domain s : List Char} (missing : run? domain s = none) (before rest : List Char)
    (split : s = before ++ rest) : runAt? domain rest = none := by
  induction s generalizing before with
  | nil =>
      obtain ⟨rfl, rfl⟩ := List.append_eq_nil_iff.mp split.symm
      exact runAt?_of_no_label rfl
  | cons c s ih =>
      rw [run?] at missing
      cases here : runAt? domain (c :: s) with
      | some labels =>
          rw [here] at missing
          cases missing
      | none =>
          rw [here] at missing
          cases before with
          | nil =>
              rw [← split.trans (List.nil_append rest)]
              exact here
          | cons d before =>
              injection split with _ split
              exact ih missing before split

end LdapDecoy.Correlation
