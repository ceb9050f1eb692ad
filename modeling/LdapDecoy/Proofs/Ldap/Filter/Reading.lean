import LdapDecoy.Proofs.Ldap.Filter.Grammar

/-!
# Filter strings read back

A filter of the six plain kinds is the only reading of its string. The escapes keep the values apart from the brackets
and asterisks around them, however deep the filter is and however many filters its lists hold.
-/
namespace LdapDecoy.Ldap.Grammar
open Json (hexValue?)
open Text.Utf8 (encode)

/-! ## What is written follows the rules -/

theorem spells_escapeValueChar (c : Char) {s : List Char} {octets : Bytes} (rest : Spells s octets) :
    Spells (escapeValueChar c ++ s) (Text.Utf8.encodeChar c ++ octets) := by
  unfold escapeValueChar
  split
  · rename_i asterisk
    rw [asterisk]
    exact .code (show hexValue? '2' = some 2 from rfl) (show hexValue? 'a' = some 10 from rfl) rest
  split
  · rename_i opening
    rw [opening]
    exact .code (show hexValue? '2' = some 2 from rfl) (show hexValue? '8' = some 8 from rfl) rest
  split
  · rename_i closing
    rw [closing]
    exact .code (show hexValue? '2' = some 2 from rfl) (show hexValue? '9' = some 9 from rfl) rest
  split
  · rename_i backslash
    rw [backslash]
    exact .code (show hexValue? '5' = some 5 from rfl) (show hexValue? 'c' = some 12 from rfl) rest
  split
  · rename_i null
    have same : c = Char.ofNat 0 := by rw [← null, Char.ofNat_toNat]
    rw [same]
    exact .code (show hexValue? '0' = some 0 from rfl) (show hexValue? '0' = some 0 from rfl) rest
  · apply Spells.plain
    · simp [isReserved, *]
    · exact rest

theorem spells_escapeValue (value : String) : SpellsText (escapeValue value) value := by
  have all (s : List Char) : Spells (s.flatMap escapeValueChar) (encode s) := by
    induction s with
    | nil => exact .nil
    | cons c s ih =>
        rw [encode, List.flatMap_cons, List.flatMap_cons]
        exact spells_escapeValueChar c ih
  exact all value.toList

theorem escapeValue_ne_nil {value : String} (solid : value ≠ "") : escapeValue value ≠ [] := by
  intro empty
  apply solid
  -- nothing spells no octets
  have spells := spells_escapeValue value
  rw [empty] at spells
  exact SpellsText.unique spells .nil

theorem isPart_escapeValue {part : Option String} (solid : part ≠ some "") :
    IsPart ((part.map escapeValue).getD []) part := by
  cases part with
  | none => exact .none
  | some value => exact .some (escapeValue_ne_nil fun empty => solid (congrArg some empty)) (spells_escapeValue value)

theorem isItem_pattern {attr : String} {parts : Substrings} (name : IsName attr.toList)
    (solid : parts ≠ ⟨none, [], none⟩) (begins : parts.initial ≠ some "") (ends : parts.final ≠ some "") :
    IsItem (attr.toList ++ '=' :: parts.pattern) (.substring attr parts) := by
  have between : List.Forall₂ SpellsText (parts.middle.map escapeValue) parts.middle :=
    List.forall₂_map_left_iff.mpr (List.forall₂_same.mpr fun value _ => spells_escapeValue value)
  have written := IsItem.substring name (isPart_escapeValue begins) between (isPart_escapeValue ends) solid
  rwa [List.flatMap_map] at written

theorem derives_item {attr : String} {value : List Char} {filter : Filter}
    (isItem : IsItem (attr.toList ++ '=' :: value) filter) : Derives (item attr value) (.filter filter) := by
  have written := Derives.item isItem
  rwa [List.append_assoc, List.cons_append] at written

theorem derives_charsOfAll {filters : List Filter}
    (each : ∀ filter ∈ filters, Derives filter.chars (.filter filter)) :
    Derives (Filter.charsOfAll filters) (.filters filters) := by
  induction filters with
  | nil => exact .nil
  | cons filter filters ih =>
      obtain ⟨first, rest⟩ := List.forall_mem_cons.mp each
      exact .cons first (ih rest)

theorem IsPlain.derives {filter : Filter} (plain : IsPlain filter) : Derives filter.chars (.filter filter) := by
  induction plain with
  | all _ ih => exact .all (derives_charsOfAll ih)
  | any _ ih => exact .any (derives_charsOfAll ih)
  | not _ ih => exact .not ih
  | equal name => exact derives_item (.equal name (spells_escapeValue _))
  | present name => exact derives_item (.present name)
  | substring name solid begins _ ends => exact derives_item (isItem_pattern name solid begins ends)

/-! ## And is read in one way -/

/-- By the grammar a plain filter is what its string stands for, all of it and no beginning of it, and nothing else is;
so no other plain filter has the same string. -/
theorem text_reads_back (filter : Filter) (plain : IsPlain filter) :
    (∀ s other, s <+: filter.text.toList →
        (Derives s (.filter other) ↔ s = filter.text.toList ∧ other = filter)) ∧
      ∀ other, IsPlain other → other.text = filter.text → other = filter := by
  have text (filter : Filter) : filter.text.toList = filter.chars := String.toList_ofList
  have reads {s rest : List Char} {other : Filter} (derives : Derives s (.filter other))
      (begins : s ++ rest = filter.chars) : s = filter.chars ∧ other = filter :=
    derives.alone filter filter.chars rest [] plain plain.derives (by rw [begins, List.append_nil])
  rw [text]
  constructor
  · rintro s other ⟨rest, begins⟩
    constructor
    · intro derives
      exact reads derives begins
    · rintro ⟨rfl, rfl⟩
      exact plain.derives
  · intro other plain' same
    have chars : other.chars = filter.chars := by rw [← text, same, text]
    exact (reads plain'.derives ((List.append_nil _).trans chars)).2

theorem text_reads_back_nested :
    let filter : Filter := .all [.equal "uid" "a(b)*\\", .not (.present "mail"), .any [],
      .substring "cn;lang-de" ⟨some "*", ["("], none⟩]
    IsPlain filter ∧
      filter.text = "(&(uid=a\\28b\\29\\2a\\5c)(!(mail=*))(|)(cn;lang-de=\\2a*\\28*))" ∧
      (∀ s other, s <+: filter.text.toList →
        (Derives s (.filter other) ↔ s = filter.text.toList ∧ other = filter)) ∧
      ∀ other, IsPlain other → other.text = filter.text → other = filter := by
  intro filter
  have plain : IsPlain filter := by
    apply IsPlain.all
    simp only [List.forall_mem_cons]
    refine ⟨.equal (by decide), .not (.present (by decide)), .any ?_, ?_, ?_⟩
    · exact List.forall_mem_nil _
    · exact .substring (by decide) (by decide) (by decide) (by decide) (by decide)
    · exact List.forall_mem_nil _
  exact ⟨plain, by decide, text_reads_back filter plain⟩

end LdapDecoy.Ldap.Grammar
