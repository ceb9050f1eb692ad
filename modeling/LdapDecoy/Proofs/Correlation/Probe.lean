import LdapDecoy.Proofs.Correlation.Key

/-!
# Planted probes

A probe is planted as labels with an identifier among them, in front of the root domain, in a base that says
something before and after. Where no part of the domain is as wide as an identifier, and neither text around the probe
has a dot, the search begins with the first label of the probe and ends with its last one, and the last of its labels
of this width is the identifier.
-/
namespace LdapDecoy.Correlation
open Text.Utf8 (size)

/-! ## The width of labels -/

theorem size_eq_length {s : List Char} (single : ∀ c ∈ s, c.utf8Size = 1) : size s = s.length := by
  induction s with
  | nil => rfl
  | cons c s ih =>
      obtain ⟨first, others⟩ := List.forall_mem_cons.mp single
      rw [Text.Utf8.size_cons, first, ih others, List.length_cons, Nat.add_comm]

/-- Octets are characters where each character is one. -/
theorem cut?_eq_take {s : List Char} (single : ∀ c ∈ s, c.utf8Size = 1) {n : Nat} (long : n ≤ s.length) :
    cut? n s = some (s.take n) := by
  induction s generalizing n with
  | nil =>
      obtain rfl := Nat.le_zero.mp long
      rfl
  | cons c s ih =>
      cases n with
      | zero => rfl
      | succ n =>
          obtain ⟨first, others⟩ := List.forall_mem_cons.mp single
          have further := ih others (Nat.le_of_succ_le_succ long)
          rw [cut?, Text.Utf8.length_encodeChar, first, if_pos (Nat.le_add_left 1 n), Nat.add_sub_cancel, further]
          rfl

namespace IsLabel

variable {label : List Char}

/-- The characters of labels are octets. -/
theorem single (isLabel : IsLabel label) : ∀ c ∈ label, c.utf8Size = 1 := by
  intro c among
  have below : c ≤ '\x7f' := by
    rcases isLabel.chars c among with ⟨_, letter⟩ | ⟨_, digit⟩ | rfl
    · exact Char.le_trans letter (by decide)
    · exact Char.le_trans digit (by decide)
    · decide
  exact Char.utf8Size_eq_one_iff.mpr below

theorem hasIdentifierWidth_iff_length (isLabel : IsLabel label) :
    hasIdentifierWidth label = true ↔ label.length = 33 := by
  rw [hasIdentifierWidth, size_eq_length isLabel.single]
  exact beq_iff_eq

end IsLabel

/-- The key of an identifier that is a label is its first 20 characters. -/
theorem key_of_label {identifier : String} (isLabel : IsLabel identifier.toList) (wide : identifier.length = 33) :
    key identifier = String.ofList (identifier.toList.take 20) := by
  have long : keyWidth ≤ identifier.toList.length := by
    rw [String.length_toList, wide]
    decide
  rw [key, cut?_eq_take isLabel.single long]
  rfl

/-! ## Where the search begins and ends -/

/-- Labels with a dot behind each have as many dots as there are labels. -/
theorem count_dotted {labels : List (List Char)} (isLabel : ∀ label ∈ labels, IsLabel label) :
    (dotted labels).count '.' = labels.length := by
  induction labels with
  | nil => rfl
  | cons label labels ih =>
      obtain ⟨first, others⟩ := List.forall_mem_cons.mp isLabel
      rw [dotted_cons, List.count_append, List.count_eq_zero.mpr first.no_dot, List.count_cons_self, ih others,
        List.length_cons, Nat.zero_add]

/-- A run ends at a domain with no dot behind it: a longer one would need one more. -/
theorem runAt?_dotted {labels : List (List Char)} (areLabels : AreLabels labels) (domain : List Char)
    {behind : List Char} (dotless : '.' ∉ behind) :
    runAt? domain (dotted labels ++ domain ++ behind) = some labels := by
  have stands : dotted labels ++ domain <+: dotted labels ++ domain ++ behind := List.prefix_append _ behind
  obtain ⟨more, found⟩ := runAt?_longest areLabels stands
  obtain ⟨isRun, begins⟩ := runAt?_sound found
  have dots := begins.sublist.count_le '.'
  rw [List.count_append, List.count_append, List.count_append, count_dotted isRun.labels,
    count_dotted areLabels.labels, List.length_append, List.count_eq_zero.mpr dotless] at dots
  have none : more = [] := List.eq_nil_of_length_eq_zero (by omega)
  rw [found, none, List.append_nil]

/-- No label is read where something that is none stands in front of the first dot. -/
theorem label?_eq_none {front rest : List Char} (dotless : '.' ∉ front)
    (blocked : ∃ c ∈ front, isLabelChar c = false) : label? (front ++ rest) = none := by
  cases read : label? (front ++ rest) with
  | none => rfl
  | some entry =>
      obtain ⟨label, behind⟩ := entry
      obtain ⟨c, among, other⟩ := blocked
      have isLabel := isLabel_of_label? read
      -- the label ends in front of a dot, so that it reaches beyond the front
      have reaches : front <+: label := by
        rcases List.append_eq_append_iff.mp (label?_eq read) with ⟨more, same, _⟩ | ⟨more, same, dot⟩
        · exact ⟨more, same.symm⟩
        · cases more with
          | nil =>
              rw [List.append_nil] at same
              exact same ▸ List.prefix_refl label
          | cons d more =>
              rw [List.cons_append] at dot
              have within : '.' ∈ front := by
                rw [same, ← List.head_eq_of_cons_eq dot]
                exact List.mem_append_right label (.head more)
              exact absurd within dotless
      have labelled := (isLabelChar_iff c).mpr (isLabel.chars c (reaches.subset among))
      rw [other] at labelled
      cases labelled

/-- What keeps a label from beginning in a text and going on behind it. -/
structure Blocks (front : List Char) : Prop where
  no_dot : '.' ∉ front
  last : ∀ c ∈ front.getLast?, isLabelChar c = false

theorem run?_blocked {front : List Char} (blocks : Blocks front) (domain rest : List Char) :
    run? domain (front ++ rest) = run? domain rest := by
  induction front with
  | nil => rfl
  | cons c front ih =>
      have blocked : ∃ d ∈ c :: front, isLabelChar d = false :=
        ⟨(c :: front).getLast (List.cons_ne_nil c front), List.getLast_mem _,
          blocks.last _ (List.getLast?_eq_some_getLast _)⟩
      have none : runAt? domain (c :: front ++ rest) = none :=
        runAt?_of_no_label (label?_eq_none blocks.no_dot blocked)
      have further : Blocks front := by
        refine ⟨List.not_mem_of_not_mem_cons blocks.no_dot, fun d last => blocks.last d ?_⟩
        rw [List.getLast?_cons, Option.mem_def.mp last]
        rfl
      rw [List.cons_append] at none ⊢
      rw [run?, none]
      exact ih further

theorem run?_of_runAt? {domain s : List Char} {labels : List (List Char)} (found : runAt? domain s = some labels) :
    run? domain s = some labels := by
  cases s with
  | nil =>
      rw [runAt?_of_no_label rfl] at found
      cases found
  | cons c s => rw [run?, found]

/-! ## Probes -/

theorem toList_join_dotted (labels : List String) :
    (String.join (labels.map (· ++ "."))).toList = dotted (labels.map String.toList) := by
  induction labels with
  | nil => rfl
  | cons label labels ih =>
      rw [List.map_cons, String.join_cons, String.toList_append, ih, List.map_cons, dotted_cons,
        String.toList_append]
      simp

/-- Whether no part of a domain is as wide as an identifier. -/
def IsNarrow (domain : String) : Prop := ∀ part ∈ dotParts domain, part.utf8ByteSize ≠ 33

theorem IsNarrow.parts {domain : String} (narrow : IsNarrow domain) :
    ∀ part ∈ parts domain.toList, hasIdentifierWidth part = false := by
  intro part among
  rw [parts_eq_splitOn] at among
  exact (hasIdentifierWidth_eq_false part).mpr (narrow _ (List.mem_map_of_mem among))

/-- Labels that carry an identifier: no label behind it is as wide. -/
structure Probe where
  before : List String
  identifier : String
  after : List String
  isLabel : ∀ label ∈ before ++ identifier :: after, IsLabel label.toList
  wide : identifier.length = 33
  last : ∀ label ∈ after, label.length ≠ 33

namespace Probe

variable (probe : Probe)

def labels : List String := probe.before ++ probe.identifier :: probe.after

/-- What is planted in front of a domain: the labels with a dot behind each. -/
def run : String := String.join (probe.labels.map (· ++ "."))

theorem toList_run : probe.run.toList = dotted (probe.labels.map String.toList) :=
  toList_join_dotted probe.labels

theorem areLabels : AreLabels (probe.labels.map String.toList) := by
  constructor
  · simp [labels]
  · intro label among
    obtain ⟨text, inLabels, rfl⟩ := List.mem_map.mp among
    exact probe.isLabel text inLabels

theorem isLabel_identifier : IsLabel probe.identifier.toList :=
  probe.isLabel _ (List.mem_append_right _ (.head _))

/-- The identifier is the last part as wide, where the domain has none. -/
theorem pick?_eq {domain : String} (narrow : IsNarrow domain) :
    pick? domain.toList (probe.labels.map String.toList) =
      some (probe.before.map String.toList, probe.identifier.toList) := by
  have split : probe.labels.map String.toList ++ parts domain.toList =
      probe.before.map String.toList ++
        probe.identifier.toList :: (probe.after.map String.toList ++ parts domain.toList) := by
    simp [labels]
  have wide : hasIdentifierWidth probe.identifier.toList = true :=
    probe.isLabel_identifier.hasIdentifierWidth_iff_length.mpr (String.length_toList.trans probe.wide)
  rw [pick?, split]
  refine last?_split wide fun part among => ?_
  rcases List.mem_append.mp among with inAfter | inDomain
  · obtain ⟨label, later, rfl⟩ := List.mem_map.mp inAfter
    have isLabel := probe.isLabel label (List.mem_append_right _ (.tail _ later))
    rw [← Bool.not_eq_true, isLabel.hasIdentifierWidth_iff_length, String.length_toList]
    exact probe.last label later
  · exact narrow.parts part inDomain

/-- The identifier, as a base shows it. -/
def read : Identifier where
  uniqueId := probe.identifier
  fullId := ".".intercalate (probe.before ++ [probe.identifier])

theorem ofParts_eq : .ofParts (probe.before.map String.toList) probe.identifier.toList = probe.read := by
  rw [Identifier.ofParts, fullId_eq, String.ofList_toList]
  simp [read]

theorem read_key : probe.read.key = String.ofList (probe.identifier.toList.take 20) :=
  key_of_label probe.isLabel_identifier probe.wide

end Probe

/-- A probe that is planted in front of the domain is found, whatever is said around it without a dot: its identifier
is the one that is extracted, with the labels up to it, and the key is the identifier's first 20 characters. -/
theorem extract_planted (probe : Probe) {domain front behind : String} (narrow : IsNarrow domain)
    (blocks : Blocks front.toList) (dotless : '.' ∉ behind.toList) :
    ∃ found, extract domain (front ++ probe.run ++ domain ++ behind) = some found ∧
      found.uniqueId = probe.identifier ∧
      found.fullId = ".".intercalate (probe.before ++ [probe.identifier]) ∧
      found.key = String.ofList (probe.identifier.toList.take 20) := by
  have base : (front ++ probe.run ++ domain ++ behind).toList =
      front.toList ++ (dotted (probe.labels.map String.toList) ++ domain.toList ++ behind.toList) := by
    simp only [String.toList_append, probe.toList_run, List.append_assoc]
  have run : run? domain.toList (front ++ probe.run ++ domain ++ behind).toList =
      some (probe.labels.map String.toList) := by
    rw [base, run?_blocked blocks]
    exact run?_of_runAt? (runAt?_dotted probe.areLabels domain.toList dotless)
  refine ⟨probe.read, ?_, rfl, rfl, probe.read_key⟩
  rw [extract, run, ← probe.ofParts_eq]
  change (pick? _ _).bind _ = _
  rw [probe.pick?_eq narrow]
  rfl

/-- A probe in the path of a URI, with another text of this width in front of it and a label behind it. -/
theorem extract_planted_in_path :
    let token := "c59e3crp82ke7bcnedq0cfjqdpeyyyyyy"
    let other := "d00000000000000000000000000000001"
    (IsNarrow "interact.sh" ∧ Blocks "cn=x,dc=/".toList ∧ '.' ∉ ":1389/a".toList) ∧
      ∃ found, extract "interact.sh" ("cn=x,dc=/" ++ (other ++ "." ++ token ++ ".a-1.interact.sh:1389/a")) = some found ∧
        found.uniqueId = token ∧ found.fullId = other ++ "." ++ token ∧ found.key = "c59e3crp82ke7bcnedq0" := by
  intro token other
  have narrow : IsNarrow "interact.sh" := by
    unfold IsNarrow
    decide
  have blocks : Blocks "cn=x,dc=/".toList := ⟨by decide, fun c last => by cases last; rfl⟩
  have dotless : '.' ∉ ":1389/a".toList := by decide
  let probe : Probe := ⟨[other], token, ["a-1"], by decide, by decide, by decide⟩
  obtain ⟨found, extracted, identifier, whole, key⟩ := extract_planted probe narrow blocks dotless
  have planted : "cn=x,dc=/" ++ probe.run ++ "interact.sh" ++ ":1389/a" =
      "cn=x,dc=/" ++ (other ++ "." ++ token ++ ".a-1.interact.sh:1389/a") := by decide
  rw [planted] at extracted
  exact ⟨⟨narrow, blocks, dotless⟩, found, extracted, identifier, whole, key.trans (by decide)⟩

end LdapDecoy.Correlation
