import LdapDecoy.Proofs.Correlation.Labels
import LdapDecoy.Proofs.Text.Utf8

/-!
# What is extracted

The answer to a base DN, said without a search: of all runs in front of the domain the leftmost counts, and
of those at its place the longest; of the parts between the dots of this run and the domain the last one
that is 33 octets wide is the identifier. There is at most one such answer, and it is the one that is given.
-/
namespace LdapDecoy.Correlation
open Text.Utf8 (size)

/-- A text that is one or more labels with a dot behind each. -/
def IsRun (run : String) : Prop := ∃ labels, AreLabels labels ∧ run.toList = dotted labels

/-- Behind the first `position` octets of a base, a run with the domain behind it stands. -/
structure Stands (domain base run : String) (position : Nat) : Prop where
  isRun : IsRun run
  placed : ∃ before after, base = before ++ (run ++ domain) ++ after ∧ before.utf8ByteSize = position

/-- The run that counts is the leftmost, and the longest at its place. -/
structure Counts (domain base run : String) (position : Nat) : Prop extends
    Stands domain base run position where
  leftmost : ∀ other place, Stands domain base other place → position ≤ place
  longest : ∀ other, Stands domain base other position → other.utf8ByteSize ≤ run.utf8ByteSize

/-- The parts of a text between its dots. -/
def dotParts (text : String) : List String := (text.toList.splitOn '.').map String.ofList

/-- The identifier of a text: the last part of 33 octets, with the parts up to it joined by dots. -/
inductive Names (text : String) : Option Identifier → Prop where
  | nothing (narrow : ∀ part ∈ dotParts text, part.utf8ByteSize ≠ 33) : Names text none
  | identifier {before : List String} {part : String} {after : List String}
      (split : dotParts text = before ++ part :: after) (wide : part.utf8ByteSize = 33)
      (last : ∀ later ∈ after, later.utf8ByteSize ≠ 33) :
      Names text (some ⟨part, ".".intercalate (before ++ [part])⟩)

/-- The answer to a base. -/
inductive Extracted (domain base : String) : Option Identifier → Prop where
  | absent (missing : ∀ run position, ¬ Stands domain base run position) : Extracted domain base none
  | found {run : String} {position : Nat} {answer : Option Identifier}
      (counts : Counts domain base run position) (names : Names (run ++ domain) answer) :
      Extracted domain base answer

/-! ## Parts -/

theorem parts_eq_splitOn (s : List Char) : parts s = s.splitOn '.' := by
  induction s with
  | nil => rfl
  | cons c rest ih =>
      obtain ⟨part, more, same⟩ := List.exists_cons_of_ne_nil (List.splitOn_ne_nil '.' rest)
      rw [parts, ih, List.splitOn_cons_eq_if_modifyHead, same]
      by_cases dot : c = '.' <;> simp [dot]

theorem parts_dotted {labels : List (List Char)} (isLabel : ∀ label ∈ labels, IsLabel label)
    (s : List Char) : parts (dotted labels ++ s) = labels ++ parts s := by
  induction labels with
  | nil => rfl
  | cons label labels ih =>
      obtain ⟨first, others⟩ := List.forall_mem_cons.mp isLabel
      have known := ih others
      rw [parts_eq_splitOn, parts_eq_splitOn] at known
      rw [dotted_cons, parts_eq_splitOn, List.append_assoc, List.cons_append,
        List.splitOn_append_cons_self_of_not_mem first.no_dot, known, parts_eq_splitOn]
      rfl

theorem last?_eq_none {α : Type} {test : α → Bool} {l : List α} :
    last? test l = none ↔ ∀ a ∈ l, test a = false := by
  induction l with
  | nil => simp [last?]
  | cons a rest ih =>
      rw [last?, List.forall_mem_cons, ← ih]
      cases last? test rest with
      | none => cases test a <;> simp
      | some found => simp

theorem last?_split {α : Type} {test : α → Bool} {before : List α} {a : α} {after : List α}
    (passes : test a = true) (last : ∀ b ∈ after, test b = false) :
    last? test (before ++ a :: after) = some (before, a) := by
  induction before with
  | nil =>
      rw [List.nil_append, last?, last?_eq_none.mpr last]
      exact if_pos passes
  | cons b before ih => rw [List.cons_append, last?, ih]

theorem last?_sound {α : Type} {test : α → Bool} {l before : List α} {a : α}
    (found : last? test l = some (before, a)) :
    ∃ after, l = before ++ a :: after ∧ test a = true ∧ ∀ b ∈ after, test b = false := by
  induction l generalizing before with
  | nil => cases found
  | cons b rest ih =>
      rw [last?] at found
      cases later : last? test rest with
      | some entry =>
          simp only [later, Option.some.injEq, Prod.mk.injEq] at found
          obtain ⟨rfl, rfl⟩ := found
          obtain ⟨after, rfl, passes, last⟩ := ih later
          exact ⟨after, rfl, passes, last⟩
      | none =>
          simp only [later] at found
          split at found
          · rename_i passes
            cases found
            exact ⟨rest, rfl, passes, last?_eq_none.mp later⟩
          · cases found

/-! ## Identifiers -/

theorem hasIdentifierWidth_iff (part : List Char) :
    hasIdentifierWidth part = true ↔ (String.ofList part).utf8ByteSize = 33 := by
  rw [Text.Utf8.utf8ByteSize_ofList]
  exact beq_iff_eq

theorem hasIdentifierWidth_eq_false (part : List Char) :
    hasIdentifierWidth part = false ↔ (String.ofList part).utf8ByteSize ≠ 33 := by
  rw [← Bool.not_eq_true, hasIdentifierWidth_iff]

theorem fullId_eq (before : List (List Char)) (part : List Char) :
    String.ofList (List.intercalate ['.'] (before ++ [part])) =
      ".".intercalate (before.map String.ofList ++ [String.ofList part]) := by
  apply String.toList_injective
  simp [String.toList_intercalate]

/-- The identifier that is picked among the parts of a text. -/
def named? (s : List Char) : Option Identifier :=
  (last? hasIdentifierWidth (s.splitOn '.')).map fun (before, part) => .ofParts before part

theorem names_named? (text : String) : Names text (named? text.toList) := by
  unfold named?
  cases found : last? hasIdentifierWidth (text.toList.splitOn '.') with
  | none =>
      refine .nothing fun part member => ?_
      obtain ⟨chars, inside, rfl⟩ := List.mem_map.mp member
      exact (hasIdentifierWidth_eq_false chars).mp (last?_eq_none.mp found chars inside)
  | some entry =>
      obtain ⟨before, part⟩ := entry
      obtain ⟨after, split, wide, last⟩ := last?_sound found
      have parts : dotParts text =
          before.map String.ofList ++ String.ofList part :: after.map String.ofList := by
        rw [dotParts, split, List.map_append, List.map_cons]
      have named := Names.identifier parts ((hasIdentifierWidth_iff part).mp wide) fun later member => by
        obtain ⟨chars, inside, rfl⟩ := List.mem_map.mp member
        exact (hasIdentifierWidth_eq_false chars).mp (last chars inside)
      rw [← fullId_eq] at named
      exact named

theorem Names.eq_named? {text : String} {answer : Option Identifier} (names : Names text answer) :
    answer = named? text.toList := by
  unfold named?
  cases names with
  | nothing narrow =>
      have missing : last? hasIdentifierWidth (text.toList.splitOn '.') = none :=
        last?_eq_none.mpr fun chars member =>
          (hasIdentifierWidth_eq_false chars).mpr (narrow _ (List.mem_map_of_mem member))
      rw [missing]
      rfl
  | identifier split wide last =>
      obtain ⟨before, others, whole, rfl, behind⟩ := List.map_eq_append_iff.mp split
      obtain ⟨part, after, rfl, rfl, rfl⟩ := List.map_eq_cons_iff.mp behind
      have narrow : ∀ chars ∈ after, hasIdentifierWidth chars = false := fun chars member =>
        (hasIdentifierWidth_eq_false chars).mpr (last _ (List.mem_map_of_mem member))
      have picked : last? hasIdentifierWidth (before ++ part :: after) = some (before, part) :=
        last?_split ((hasIdentifierWidth_iff part).mpr wide) narrow
      rw [whole, picked, ← fullId_eq]
      rfl

theorem named?_dotted {labels : List (List Char)} (isLabel : ∀ label ∈ labels, IsLabel label)
    (domain : List Char) :
    named? (dotted labels ++ domain) = (pick? domain labels).map fun (before, part) => .ofParts before part := by
  rw [named?, pick?, ← parts_eq_splitOn, parts_dotted isLabel]

theorem extract_eq (domain base : String) :
    extract domain base =
      match run? domain.toList base.toList with
      | none => none
      | some labels => named? (dotted labels ++ domain.toList) := by
  unfold extract
  cases found : run? domain.toList base.toList with
  | none => rfl
  | some labels =>
      obtain ⟨before, rest, _, there, _⟩ := run?_eq_some found
      change (pick? domain.toList labels).bind _ = named? _
      rw [named?_dotted (runAt?_sound there).1.labels]
      cases pick? domain.toList labels <;> rfl

/-! ## The run that counts -/

/-- Where a run stands, characters of the base are in front of it, and labels can be read. -/
theorem Stands.exists_labels {domain base run : String} {position : Nat}
    (stands : Stands domain base run position) :
    ∃ before rest labels, base.toList = before ++ rest ∧ size before = position ∧
      AreLabels labels ∧ run.toList = dotted labels ∧ dotted labels ++ domain.toList <+: rest := by
  obtain ⟨⟨labels, areLabels, same⟩, before, after, rfl, rfl⟩ := stands
  refine ⟨before.toList, (run ++ domain ++ after).toList, labels, ?_, ?_, areLabels, same, ?_⟩
  · simp
  · rw [Text.Utf8.utf8ByteSize_eq]
  · rw [← same, String.toList_append, String.toList_append]
    exact List.prefix_append _ _

theorem stands_of_begins {domain : String} {before rest : List Char} {labels : List (List Char)}
    (areLabels : AreLabels labels) (begins : dotted labels ++ domain.toList <+: rest) :
    Stands domain (String.ofList (before ++ rest)) (String.ofList (dotted labels)) (size before) := by
  obtain ⟨after, rfl⟩ := begins
  refine ⟨⟨labels, areLabels, String.toList_ofList⟩, String.ofList before, String.ofList after, ?_, ?_⟩
  · apply String.toList_injective
    simp
  · exact Text.Utf8.utf8ByteSize_ofList before

/-- Two runs that count are the same run. -/
theorem Counts.unique {domain base run other : String} {position place : Nat}
    (counts : Counts domain base run position) (also : Counts domain base other place) :
    run = other := by
  have same : position = place :=
    Nat.le_antisymm (counts.leftmost other place also.toStands) (also.leftmost run position counts.toStands)
  subst same
  have wide : run.utf8ByteSize = other.utf8ByteSize :=
    Nat.le_antisymm (also.longest run counts.toStands) (counts.longest other also.toStands)
  obtain ⟨before, rest, labels, split, left, _, isRun, begins⟩ := counts.toStands.exists_labels
  obtain ⟨before', rest', labels', split', left', _, isRun', begins'⟩ := also.toStands.exists_labels
  have fronts : before = before' :=
    Text.Utf8.prefix_unique ⟨rest, split.symm⟩ ⟨rest', split'.symm⟩ (left.trans left'.symm)
  subst fronts
  have rests : rest = rest' := List.append_cancel_left (split.symm.trans split')
  subst rests
  rw [Text.Utf8.utf8ByteSize_eq, Text.Utf8.utf8ByteSize_eq] at wide
  apply String.toList_injective
  rw [← isRun] at begins
  rw [← isRun'] at begins'
  exact Text.Utf8.prefix_unique ((List.prefix_append _ _).trans begins)
    ((List.prefix_append _ _).trans begins') wide

/-- The run that the search finds counts. -/
theorem counts_of_run? {domain base : String} {labels : List (List Char)}
    (found : run? domain.toList base.toList = some labels) :
    ∃ position, Counts domain base (String.ofList (dotted labels)) position := by
  obtain ⟨before, rest, split, there, first⟩ := run?_eq_some found
  obtain ⟨areLabels, begins⟩ := runAt?_sound there
  have stands : Stands domain (String.ofList (before ++ rest)) _ (size before) :=
    stands_of_begins areLabels begins
  rw [← split, String.ofList_toList] at stands
  refine ⟨size before, stands, ?_, ?_⟩
  · intro other place elsewhere
    obtain ⟨before', rest', labels', split', rfl, areLabels', _, begins'⟩ := elsewhere.exists_labels
    obtain ⟨more, found'⟩ := runAt?_longest areLabels' begins'
    have shorter := first before' rest' split' (by simp [found'])
    exact Text.Utf8.size_le_of_begins (List.prefix_of_prefix_length_le
      ⟨rest, split.symm⟩ ⟨rest', split'.symm⟩ shorter)
  · intro other here
    obtain ⟨before', rest', labels', split', left, areLabels', isRun, begins'⟩ := here.exists_labels
    have fronts : before' = before :=
      Text.Utf8.prefix_unique ⟨rest', split'.symm⟩ ⟨rest, split.symm⟩ left
    subst fronts
    have rests : rest' = rest := List.append_cancel_left (split'.symm.trans split)
    subst rests
    obtain ⟨more, found'⟩ := runAt?_longest areLabels' begins'
    have same : labels = labels' ++ more := Option.some.inj (there.symm.trans found')
    rw [Text.Utf8.utf8ByteSize_eq, isRun, Text.Utf8.utf8ByteSize_ofList, same, dotted_append]
    exact Text.Utf8.size_le_of_begins (List.prefix_append _ _)

theorem not_stands_of_run? {domain base : String} (missing : run? domain.toList base.toList = none)
    (run : String) (position : Nat) : ¬ Stands domain base run position := by
  intro stands
  obtain ⟨before, rest, labels, split, _, areLabels, _, begins⟩ := stands.exists_labels
  obtain ⟨more, found⟩ := runAt?_longest areLabels begins
  rw [run?_eq_none missing before rest split] at found
  cases found

/-! ## The answer -/

theorem extracted_extract (domain base : String) : Extracted domain base (extract domain base) := by
  rw [extract_eq]
  cases found : run? domain.toList base.toList with
  | none => exact .absent (not_stands_of_run? found)
  | some labels =>
      obtain ⟨position, counts⟩ := counts_of_run? found
      have names := names_named? (String.ofList (dotted labels) ++ domain)
      rw [String.toList_append, String.toList_ofList] at names
      exact .found counts names

theorem Extracted.unique {domain base : String} {answer other : Option Identifier}
    (extracted : Extracted domain base answer) (also : Extracted domain base other) :
    answer = other := by
  cases extracted with
  | absent missing =>
      cases also with
      | absent _ => rfl
      | found counts _ => exact absurd counts.toStands (missing _ _)
  | found counts names =>
      cases also with
      | absent missing => exact absurd counts.toStands (missing _ _)
      | found counts' names' =>
          have same := counts.unique counts'
          subst same
          rw [names.eq_named?, names'.eq_named?]

/-- Extraction gives exactly the answer that the leftmost and longest run in front of the domain has. -/
theorem extract_eq_iff (domain base : String) (answer : Option Identifier) :
    extract domain base = answer ↔ Extracted domain base answer := by
  constructor
  · rintro rfl
    exact extracted_extract domain base
  · intro extracted
    exact (extracted_extract domain base).unique extracted

end LdapDecoy.Correlation
