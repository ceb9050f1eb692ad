import LdapDecoy.Config.Configuration
import LdapDecoy.Proofs.Correlation.Probe

/-!
# Where identifiers come from

The identifier is picked among the parts of the whole match, and those of the domain come last. Under a domain
without a part as wide as an identifier it is read off the run of labels in front of the domain, as the last label of
this width. Under a domain that has such a part no probe is ever found: the part of the domain is taken for it.
-/
namespace LdapDecoy.Correlation
open Text.Utf8 (size)

/-! ## The last one among more elements -/

section
variable {α : Type} {test : α → Bool}

theorem last?_append_of_none (l : List α) {more : List α} (none : ∀ a ∈ more, test a = false) :
    last? test (l ++ more) = last? test l := by
  induction l with
  | nil => exact last?_eq_none.mpr none
  | cons a l ih => rw [List.cons_append, last?, ih, last?]

theorem last?_append_of_some (l : List α) {more before : List α} {a : α}
    (found : last? test more = some (before, a)) : last? test (l ++ more) = some (l ++ before, a) := by
  induction l with
  | nil => exact found
  | cons b l ih =>
      rw [List.cons_append, last?, ih]
      rfl

end

/-- The match that counts has the answer. -/
theorem extract_of_counts {domain base run : String} {position : Nat} (counts : Counts domain base run position) :
    extract domain base = named? (run.toList ++ domain.toList) := by
  rw [extract_eq]
  cases found : run? domain.toList base.toList with
  | none => exact absurd counts.toStands (not_stands_of_run? found run position)
  | some labels =>
      obtain ⟨place, also⟩ := counts_of_run? found
      rw [counts.unique also, String.toList_ofList]

/-! ## Identifiers that are read off a run -/

theorem dotted_eq_intercalate {labels : List (List Char)} (nonempty : labels ≠ []) :
    dotted labels = List.intercalate ['.'] labels ++ ['.'] := by
  induction labels with
  | nil => exact absurd rfl nonempty
  | cons label labels ih =>
      cases labels with
      | nil => simp [dotted]
      | cons next more =>
          rw [dotted_cons, ih (List.cons_ne_nil next more)]
          simp

namespace Probe

/-- The full form of the identifier, a dot, and the labels behind it. -/
theorem run_eq (probe : Probe) :
    probe.run = probe.read.fullId ++ "." ++ String.join (probe.after.map (· ++ ".")) := by
  have front : probe.run = String.join ((probe.before ++ [probe.identifier]).map (· ++ ".")) ++
      String.join (probe.after.map (· ++ ".")) := by
    rw [run, labels, List.append_cons, List.map_append, String.join_append]
  have joined : String.join ((probe.before ++ [probe.identifier]).map (· ++ ".")) = probe.read.fullId ++ "." := by
    apply String.toList_injective
    rw [toList_join_dotted, dotted_eq_intercalate (by simp)]
    simp [read, String.toList_intercalate]
  rw [front, joined]

theorem named?_run (probe : Probe) {domain : String} (narrow : IsNarrow domain) :
    named? (probe.run.toList ++ domain.toList) = some probe.read := by
  rw [toList_run, named?_dotted probe.areLabels.labels, probe.pick?_eq narrow, ← probe.ofParts_eq]
  rfl

/-- Labels of which the last wide one is at hand are those of a probe. -/
theorem exists_of_split {before after : List (List Char)} {part : List Char}
    (isLabel : ∀ label ∈ before ++ part :: after, IsLabel label) (wide : hasIdentifierWidth part = true)
    (last : ∀ label ∈ after, hasIdentifierWidth label = false) :
    ∃ probe : Probe, probe.run = String.ofList (dotted (before ++ part :: after)) := by
  have ofWidth {label : List Char} (among : label ∈ before ++ part :: after) :
      hasIdentifierWidth label = true ↔ (String.ofList label).length = 33 := by
    rw [(isLabel label among).hasIdentifierWidth_iff_length, String.length_ofList]
  refine ⟨⟨before.map String.ofList, String.ofList part, after.map String.ofList, ?_, ?_, ?_⟩, ?_⟩
  · intro label among
    rw [← List.map_cons, ← List.map_append] at among
    obtain ⟨chars, inLabels, rfl⟩ := List.mem_map.mp among
    rw [String.toList_ofList]
    exact isLabel chars inLabels
  · exact (ofWidth (List.mem_append_right before (.head after))).mp wide
  · intro label among
    obtain ⟨chars, later, rfl⟩ := List.mem_map.mp among
    rw [Ne, ← ofWidth (List.mem_append_right before (.tail part later)), last chars later]
    exact Bool.false_ne_true
  · apply String.toList_injective
    rw [toList_run, String.toList_ofList]
    simp [labels, Function.comp_def]

end Probe

/-- A probe whose run counts is the one that is found. -/
theorem extract_of_probe {probe : Probe} {domain base : String} {position : Nat} (narrow : IsNarrow domain)
    (counts : Counts domain base probe.run position) : extract domain base = some probe.read := by
  rw [extract_of_counts counts, probe.named?_run narrow]

/-- What is found is a probe whose run counts. -/
theorem exists_probe {domain base : String} {identifier : Identifier} (narrow : IsNarrow domain)
    (found : extract domain base = some identifier) :
    ∃ probe position, Counts domain base (Probe.run probe) position ∧ identifier = probe.read := by
  cases run : run? domain.toList base.toList with
  | none =>
      rw [extract_eq, run] at found
      cases found
  | some labels =>
      obtain ⟨position, counts⟩ := counts_of_run? run
      obtain ⟨_, _, _, there, _⟩ := run?_eq_some run
      have isLabel := (runAt?_sound there).1.labels
      have answer := extract_of_counts counts
      rw [found, String.toList_ofList, named?_dotted isLabel, pick?, last?_append_of_none labels narrow.parts] at answer
      obtain ⟨⟨before, part⟩, picked, _⟩ := Option.map_eq_some_iff.mp answer.symm
      obtain ⟨after, rfl, wide, last⟩ := last?_sound picked
      obtain ⟨probe, same⟩ := Probe.exists_of_split isLabel wide last
      rw [← same] at counts
      have also := extract_of_probe narrow counts
      rw [found] at also
      exact ⟨probe, position, counts, Option.some.inj also⟩

/-- Whether an identifier is a label of the run that counts in a base, with the labels up to it, and has its leading
octets for a key. -/
structure OffRun (domain base : String) (identifier : Identifier) : Prop where
  isLabel : IsLabel identifier.uniqueId.toList
  wide : identifier.uniqueId.length = 33
  /-- The labels up to the identifier, further labels and the domain stand in the base, in one run that counts. -/
  occurs : ∃ before after front behind position,
    (∀ label ∈ before ++ after, IsLabel (String.toList label)) ∧
    identifier.fullId = ".".intercalate (before ++ [identifier.uniqueId]) ∧
    Counts domain base (identifier.fullId ++ "." ++ String.join (after.map (· ++ "."))) position ∧
    base = front ++ (identifier.fullId ++ "." ++ String.join (after.map (· ++ ".")) ++ domain) ++ behind
  key : identifier.key.utf8ByteSize = 20

theorem Probe.offRun {probe : Probe} {domain base : String} {position : Nat}
    (counts : Counts domain base probe.run position) : OffRun domain base probe.read := by
  refine ⟨probe.isLabel_identifier, probe.wide, ?_, ?_⟩
  · obtain ⟨front, behind, split, _⟩ := counts.placed
    rw [probe.run_eq] at counts split
    refine ⟨probe.before, probe.after, front, behind, position, ?_, rfl, counts, split⟩
    intro label among
    refine probe.isLabel label ?_
    rcases List.mem_append.mp among with inBefore | inAfter
    · exact List.mem_append_left _ inBefore
    · exact List.mem_append_right _ (.tail _ inAfter)
  · have long : 20 ≤ probe.identifier.toList.length := by
      rw [String.length_toList, probe.wide]
      decide
    have single : ∀ c ∈ probe.identifier.toList.take 20, c.utf8Size = 1 := fun c among =>
      probe.isLabel_identifier.single c (List.mem_of_mem_take among)
    rw [probe.read_key, Text.Utf8.utf8ByteSize_ofList, size_eq_length single, List.length_take,
      Nat.min_eq_left long]

/-! ## Domains that are taken for identifiers -/

/-- What is found under a domain with a part as wide as an identifier is such a part. -/
theorem mem_dotParts_of_wide {domain base : String} {identifier : Identifier}
    (wide : ∃ part ∈ dotParts domain, part.utf8ByteSize = 33) (found : extract domain base = some identifier) :
    identifier.uniqueId ∈ dotParts domain ∧ identifier.uniqueId.utf8ByteSize = 33 := by
  cases run : run? domain.toList base.toList with
  | none =>
      rw [extract_eq, run] at found
      cases found
  | some labels =>
      obtain ⟨position, counts⟩ := counts_of_run? run
      obtain ⟨_, _, _, there, _⟩ := run?_eq_some run
      rw [extract_of_counts counts, String.toList_ofList, named?_dotted (runAt?_sound there).1.labels, pick?] at found
      cases picked : last? hasIdentifierWidth (parts domain.toList) with
      | none =>
          obtain ⟨_, among, width⟩ := wide
          obtain ⟨part, inDomain, rfl⟩ := List.mem_map.mp among
          rw [← parts_eq_splitOn] at inDomain
          exact absurd width ((hasIdentifierWidth_eq_false part).mp (last?_eq_none.mp picked part inDomain))
      | some entry =>
          obtain ⟨before, part⟩ := entry
          obtain ⟨after, split, width, _⟩ := last?_sound picked
          rw [last?_append_of_some labels picked] at found
          cases found
          refine ⟨List.mem_map_of_mem ?_, (hasIdentifierWidth_iff part).mp width⟩
          rw [← parts_eq_splitOn, split]
          exact List.mem_append_right before (.head after)

/-- Where no part of the domain is as wide as an identifier, an identifier that is found is a label of the run in front
of the domain, the last one as wide, and the last such label of the run that counts is found; in particular one
directly in front of the domain. Where some part of the domain is as wide, nothing but such a part is ever found. -/
theorem extract_offRun (domain base : String) :
    (IsNarrow domain →
      (∀ identifier, extract domain base = some identifier → OffRun domain base identifier) ∧
      ∀ probe position, Counts domain base (Probe.run probe) position →
        extract domain base = some probe.read) ∧
    ((∃ part ∈ dotParts domain, part.utf8ByteSize = 33) →
      ∀ identifier, extract domain base = some identifier →
        identifier.uniqueId ∈ dotParts domain ∧ identifier.uniqueId.utf8ByteSize = 33) := by
  constructor
  · intro narrow
    constructor
    · intro identifier found
      obtain ⟨probe, position, counts, rfl⟩ := exists_probe narrow found
      exact probe.offRun counts
    · intro probe position counts
      exact extract_of_probe narrow counts
  · intro wide identifier found
    exact mem_dotParts_of_wide wide found

/-- A probe in the path of a URI under a domain without a wide part, and the same labels under one that has such a
part. -/
theorem extract_offRun_of_uri :
    let token := "c59e3crp82ke7bcnedq0cfjqdpeyyyyyy"
    let wide := "aaaaaaaaaaaaaaaaaaaaaaaaaaaaaaaaa"
    let found : Identifier := ⟨token, "sub." ++ token⟩
    let taken : Identifier := ⟨wide, "sub." ++ token ++ "." ++ wide⟩
    (IsNarrow "interact.sh" ∧ extract "interact.sh" ("dc=/sub." ++ token ++ ".interact.sh/x") = some found ∧
        OffRun "interact.sh" ("dc=/sub." ++ token ++ ".interact.sh/x") found) ∧
      (wide ∈ dotParts (wide ++ ".sh") ∧ wide.utf8ByteSize = 33 ∧
        extract (wide ++ ".sh") ("dc=/sub." ++ token ++ "." ++ wide ++ ".sh/x") = some taken ∧
        taken.uniqueId ∈ dotParts (wide ++ ".sh") ∧ taken.uniqueId.utf8ByteSize = 33) := by
  intro token wide found taken
  have narrow : IsNarrow "interact.sh" := by
    unfold IsNarrow
    decide
  have probe : extract "interact.sh" ("dc=/sub." ++ token ++ ".interact.sh/x") = some found := by decide +kernel
  have part : wide ∈ dotParts (wide ++ ".sh") := by decide +kernel
  have width : wide.utf8ByteSize = 33 := by decide
  have shadowed : extract (wide ++ ".sh") ("dc=/sub." ++ token ++ "." ++ wide ++ ".sh/x") = some taken := by
    decide +kernel
  obtain ⟨offRun, _⟩ := (extract_offRun "interact.sh" ("dc=/sub." ++ token ++ ".interact.sh/x")).1 narrow
  have ofDomain := (extract_offRun (wide ++ ".sh") ("dc=/sub." ++ token ++ "." ++ wide ++ ".sh/x")).2
    ⟨wide, part, width⟩
  exact ⟨⟨narrow, probe, offRun found probe⟩, part, width, shadowed, ofDomain taken shadowed⟩

/-- A domain that settings may name, under which a probe directly in front of it is not found: its own first part is
taken for the identifier, which is no label of the run in front of it. -/
theorem extract_of_wide_domain :
    let wide := "aaaaaaaaaaaaaaaaaaaaaaaaaaaaaaaaa"
    let domain := wide ++ ".sh"
    let token := "c59e3crp82ke7bcnedq0cfjqdpeyyyyyy"
    let taken : Identifier := ⟨wide, token ++ "." ++ wide⟩
    let accepted := Config.Configuration.ofSettings ⟨domain, none, none, none, none, none, none⟩ "generated"
    accepted.toOption.map (·.domain) = some domain ∧
      extract domain (token ++ "." ++ domain) = some taken ∧
      IsLabel token.toList ∧ token.length = 33 ∧ taken.uniqueId ≠ token ∧
      ¬ OffRun domain (token ++ "." ++ domain) taken := by
  intro wide domain token taken accepted
  refine ⟨by decide +kernel, by decide +kernel, by decide, by decide, by decide, ?_⟩
  intro offRun
  -- the domain would have to stand in the base once more
  obtain ⟨before, after, front, behind, position, _, _, _, split⟩ := offRun.occurs
  have sizes := congrArg String.utf8ByteSize split
  simp only [String.utf8ByteSize_append] at sizes
  have base : token.utf8ByteSize + ".".utf8ByteSize + domain.utf8ByteSize = 70 := by decide
  have fullId : taken.fullId.utf8ByteSize = 67 := by decide
  have dot : ".".utf8ByteSize = 1 := by decide
  have root : domain.utf8ByteSize = 36 := by decide
  omega

end LdapDecoy.Correlation
