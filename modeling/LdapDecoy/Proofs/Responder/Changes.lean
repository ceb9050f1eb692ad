import LdapDecoy.Proofs.Responder.Rows
import LdapDecoy.Proofs.Text.Decoding

/-!
# Changes and values, read from transcripts

The row of a value ends its name with a space, and the row of a change its kind and its name; the values of a change
stand between dashes with spaces around them. So where names are without spaces and newlines, the row of a value gives
back name and value, and the row of a change gives it back where each of its values is one word. Lists without values
are shown too, and told from all others, as a word is not empty.
-/
namespace LdapDecoy

open Text (newlines until_unique)

/-! ## Names, words and rows -/

namespace Text

/-- A name of at most one word. -/
def IsName (name : String) : Prop := ' ' ∉ name.toList ∧ newlines name = 0

/-- Octets that are a text of one row. -/
def IsRow (octets : Bytes) : Prop := ∃ text, ofBytes? octets = some text ∧ newlines text = 0

/-- Octets that are a text of one word. -/
def IsWord (octets : Bytes) : Prop := ∃ word, ofBytes? octets = some word ∧ word ≠ "" ∧ IsName word

theorem IsWord.isRow {octets : Bytes} (isWord : IsWord octets) : IsRow octets := by
  obtain ⟨word, reads, _, _, single⟩ := isWord
  exact ⟨word, reads, single⟩

/-- What is shown of a text in one row is the text. -/
theorem IsRow.newlines_lossy {octets : Bytes} (isRow : IsRow octets) : newlines (lossy octets) = 0 := by
  obtain ⟨text, reads, single⟩ := isRow
  rw [ofBytes?_eq_some_iff.mp reads, lossy_bytes]
  exact single

/-- Texts are told apart by what is shown of them. -/
theorem IsRow.unique {octets others : Bytes} (isRow : IsRow octets) (isRow' : IsRow others)
    (same : lossy octets = lossy others) : octets = others := by
  obtain ⟨text, reads, _⟩ := isRow
  obtain ⟨text', reads', _⟩ := isRow'
  rw [ofBytes?_eq_some_iff] at reads reads'
  rw [reads, reads', lossy_bytes, lossy_bytes] at same
  rw [reads, reads', same]

theorem IsWord.lossy_ne {octets : Bytes} (isWord : IsWord octets) : (lossy octets).toList ≠ [] := by
  obtain ⟨word, reads, some, _⟩ := isWord
  rw [ofBytes?_eq_some_iff.mp reads, lossy_bytes]
  exact fun none => some (String.toList_injective none)

theorem IsWord.unspaced {octets : Bytes} (isWord : IsWord octets) : ' ' ∉ (lossy octets).toList := by
  obtain ⟨word, reads, _, isName⟩ := isWord
  rw [ofBytes?_eq_some_iff.mp reads, lossy_bytes]
  exact isName.1

/-- What is shown of the items of two lists tells them apart, if it does so for any two of their items. -/
theorem map_unique {α β : Type} {shown : α → β} {fits : α → Prop}
    (unique : ∀ a b, fits a → fits b → shown a = shown b → a = b) {items others : List α}
    (each : ∀ a ∈ items, fits a) (each' : ∀ b ∈ others, fits b) (same : items.map shown = others.map shown) :
    items = others := by
  induction items generalizing others with
  | nil => exact (List.map_eq_nil_iff.mp same.symm).symm
  | cons a items ih =>
      cases others with
      | nil => cases same
      | cons b others =>
          obtain ⟨first, each⟩ := List.forall_mem_cons.mp each
          obtain ⟨first', each'⟩ := List.forall_mem_cons.mp each'
          obtain ⟨heads, tails⟩ := List.cons.inj same
          rw [unique a b first first' heads, ih each each' tails]

/-! ## Words between dashes -/

/-- What stands between two values. -/
abbrev dash : List Char := [' ', '-', ' ']

/-- Words behind a first one are told apart by the dashes in front of them. -/
theorem words_unique {first first' : List Char} {more more' : List (List Char)}
    (unspaced : ∀ word ∈ first :: more, ' ' ∉ word) (unspaced' : ∀ word ∈ first' :: more', ' ' ∉ word)
    (same : first ++ (more.flatMap (dash ++ ·) ++ [' ']) = first' ++ (more'.flatMap (dash ++ ·) ++ [' '])) :
    first = first' ∧ more = more' := by
  induction more generalizing first first' more' with
  | nil =>
      obtain ⟨left, _⟩ := List.forall_mem_cons.mp unspaced
      obtain ⟨right, _⟩ := List.forall_mem_cons.mp unspaced'
      cases more' with
      | nil => exact ⟨List.append_cancel_right same, rfl⟩
      | cons word more' => cases (until_unique left right same).2
  | cons word more ih =>
      obtain ⟨left, unspaced⟩ := List.forall_mem_cons.mp unspaced
      obtain ⟨right, unspaced'⟩ := List.forall_mem_cons.mp unspaced'
      cases more' with
      | nil => cases (until_unique left right same).2
      | cons word' more' =>
          simp only [List.flatMap_cons, List.append_assoc] at same
          obtain ⟨heads, tails⟩ := until_unique left right same
          obtain ⟨words, further⟩ := ih unspaced unspaced' (List.cons.inj (List.cons.inj tails).2).2
          exact ⟨heads, congrArg₂ List.cons words further⟩

theorem toList_dashed (first : String) (more : List String) :
    (String.intercalate " - " (first :: more)).toList =
      first.toList ++ (more.map String.toList).flatMap (dash ++ ·) := by
  rw [String.toList_intercalate]
  exact Ldap.Display.intercalate_cons first.toList (more.map String.toList)

/-- Words with dashes between them are told apart. -/
theorem dashed_unique {words others : List String}
    (nonempty : ∀ word ∈ words, word.toList ≠ []) (nonempty' : ∀ word ∈ others, word.toList ≠ [])
    (unspaced : ∀ word ∈ words, ' ' ∉ word.toList) (unspaced' : ∀ word ∈ others, ' ' ∉ word.toList)
    (same : String.intercalate " - " words = String.intercalate " - " others) : words = others := by
  have chars := congrArg String.toList same
  cases words with
  | nil =>
      cases others with
      | nil => rfl
      | cons first' more' =>
          rw [toList_dashed] at chars
          exact absurd (List.append_eq_nil_iff.mp chars.symm).1 (nonempty' first' List.mem_cons_self)
  | cons first more =>
      rw [toList_dashed] at chars
      cases others with
      | nil => exact absurd (List.append_eq_nil_iff.mp chars).1 (nonempty first List.mem_cons_self)
      | cons first' more' =>
          rw [toList_dashed] at chars
          rw [← List.forall_mem_map (P := (' ' ∉ ·))] at unspaced unspaced'
          -- a space behind the last word ends it as a dash ends the others
          have spaced := congrArg (· ++ [' ']) chars
          simp only [List.append_assoc] at spaced
          obtain ⟨heads, tails⟩ := words_unique unspaced unspaced' spaced
          have strings := List.map_injective_iff.mpr fun _ _ => String.toList_injective
          exact congrArg₂ List.cons (String.toList_injective heads) (strings tails)

end Text

open Text (IsName IsRow IsWord)

namespace Responder
open Ldap

/-! ## Rows -/

namespace Transcript

/-- A change whose row gives it back: names and values are words. -/
def IsLegible (change : Change) : Prop := IsName change.attr.name ∧ ∀ value ∈ change.attr.values, IsWord value

/-- The values that are added, each with its name. -/
def additions (attributes : List Attribute) : List (String × Bytes) :=
  attributes.flatMap fun attr => attr.values.map (attr.name, ·)

theorem unspaced_kind (k : ChangeKind) : ' ' ∉ (kind k).toList := by cases k <;> decide

theorem kind_injective {k k' : ChangeKind} (same : (kind k).toList = (kind k').toList) : k = k' := by
  have shown := String.toList_injective same
  cases k <;> cases k' <;> first | rfl | exact absurd shown (by decide)

theorem toList_changeRow (change : Change) :
    (changeRow change).toList = "Operation=".toList ++ ((kind change.kind).toList ++
      ' ' :: ("Attribute=".toList ++ (change.attr.name.toList ++ ' ' :: ("Values=[".toList ++
        ((String.intercalate " - " (change.attr.values.map Text.lossy)).toList ++ [']']))))) := by
  delta changeRow
  simp

theorem toList_additionRow (name : String) (value : Bytes) :
    (additionRow name value).toList = "Attribute Name=".toList ++ (name.toList ++
      ' ' :: ("Attribute Value=".toList ++ (Text.lossy value).toList)) := by
  delta additionRow
  simp

/-- A change is read from its row. -/
theorem changeRow_unique {change change' : Change} (legible : IsLegible change) (legible' : IsLegible change')
    (same : changeRow change = changeRow change') : change = change' := by
  obtain ⟨⟨unspaced, _⟩, words⟩ := legible
  obtain ⟨⟨unspaced', _⟩, words'⟩ := legible'
  have chars := congrArg String.toList same
  rw [toList_changeRow, toList_changeRow] at chars
  obtain ⟨kinds, behind⟩ :=
    until_unique (unspaced_kind change.kind) (unspaced_kind change'.kind) (List.append_cancel_left chars)
  obtain ⟨names, behind⟩ := until_unique unspaced unspaced' (List.append_cancel_left behind)
  have joined := String.toList_injective (List.append_cancel_right (List.append_cancel_left behind))
  have shown := Text.dashed_unique
    (List.forall_mem_map.mpr fun value among => (words value among).lossy_ne)
    (List.forall_mem_map.mpr fun value among => (words' value among).lossy_ne)
    (List.forall_mem_map.mpr fun value among => (words value among).unspaced)
    (List.forall_mem_map.mpr fun value among => (words' value among).unspaced) joined
  have values : change.attr.values = change'.attr.values :=
    Text.map_unique (fun _ _ isRow isRow' => isRow.unique isRow') (fun value among => (words value among).isRow)
      (fun value among => (words' value among).isRow) shown
  obtain ⟨k, name, list⟩ := change
  obtain ⟨k', name', list'⟩ := change'
  obtain rfl : k = k' := kind_injective kinds
  obtain rfl : name = name' := String.toList_injective names
  obtain rfl : list = list' := values
  rfl

/-- A name and a value are read from their row. -/
theorem additionRow_unique {name name' : String} {value value' : Bytes} (isName : IsName name)
    (isName' : IsName name') (isRow : IsRow value) (isRow' : IsRow value')
    (same : additionRow name value = additionRow name' value') : (name, value) = (name', value') := by
  have chars := congrArg String.toList same
  rw [toList_additionRow, toList_additionRow] at chars
  obtain ⟨names, behind⟩ := until_unique isName.1 isName'.1 (List.append_cancel_left chars)
  have values := String.toList_injective (List.append_cancel_left behind)
  rw [String.toList_injective names, isRow.unique isRow' values]

theorem additionRows_eq (attributes : List Attribute) :
    attributes.flatMap additionRows =
      (additions attributes).map fun addition => additionRow addition.1 addition.2 := by
  rw [additions, List.map_flatMap]
  refine congrArg (attributes.flatMap ·) (funext fun attr => ?_)
  rw [List.map_map]
  rfl

theorem field_unique {name value value' : String} (same : field name value = field name value') : value = value' := by
  have chars := congrArg String.toList same
  simp only [field, String.toList_append] at chars
  exact String.toList_injective (List.append_cancel_left chars)

end Transcript

open Transcript (IsLegible additions additionRow additionTexts changeRow changeTexts field)

namespace Policy

variable {upgrade upgrade' : Except TlsFault Unit} {dn dn' : String}

/-- Rows without newlines are read from a transcript. -/
theorem rows_unique {operation operation' : Operation}
    (single : ∀ text ∈ texts upgrade operation, newlines text = 0)
    (single' : ∀ text ∈ texts upgrade' operation', newlines text = 0)
    (same : transcript upgrade operation = transcript upgrade' operation') :
    rows upgrade operation = rows upgrade' operation' := by
  have none {texts : List String} (each : ∀ text ∈ texts, newlines text = 0) : (texts.map newlines).sum = 0 :=
    List.sum_eq_zero_iff_forall_eq_nat.mpr (List.forall_mem_map.mpr each)
  rw [transcript_eq_column, transcript_eq_column] at same
  refine Text.column_unique ?_ ?_ same
  · rw [newlines_rows]
    exact none single
  · rw [newlines_rows]
    exact none single'

theorem newlines_of_legible {change : Change} (legible : IsLegible change) :
    ∀ text ∈ changeTexts change, newlines text = 0 := by
  obtain ⟨⟨_, single⟩, words⟩ := legible
  rw [changeTexts, List.forall_mem_cons, List.forall_mem_map]
  exact ⟨single, fun value among => (words value among).isRow.newlines_lossy⟩

theorem newlines_modify {changes : List Change} (single : newlines dn = 0)
    (legible : ∀ change ∈ changes, IsLegible change) :
    ∀ text ∈ texts upgrade (.modify dn changes), newlines text = 0 := by
  rw [texts, List.forall_mem_cons, List.forall_mem_flatMap]
  exact ⟨single, fun change among => newlines_of_legible (legible change among)⟩

theorem newlines_add {attributes : List Attribute} (single : newlines dn = 0)
    (legible : ∀ addition ∈ additions attributes, IsName addition.1 ∧ IsRow addition.2) :
    ∀ text ∈ texts upgrade (.add dn attributes), newlines text = 0 := by
  rw [texts, List.forall_mem_cons, List.forall_mem_flatMap]
  refine ⟨single, fun attr among => ?_⟩
  rw [additionTexts, List.forall_mem_flatMap]
  intro value stands
  have here : (attr.name, value) ∈ additions attributes :=
    List.mem_flatMap.mpr ⟨attr, among, List.mem_map.mpr ⟨value, stands, rfl⟩⟩
  obtain ⟨⟨_, named⟩, isRow⟩ := legible _ here
  exact List.forall_mem_cons.mpr ⟨named, List.forall_mem_singleton.mpr isRow.newlines_lossy⟩

/-- Name and changes are read from the transcript of a Modify. -/
theorem modify_unique {changes changes' : List Change} (single : newlines dn = 0) (single' : newlines dn' = 0)
    (legible : ∀ change ∈ changes, IsLegible change) (legible' : ∀ change ∈ changes', IsLegible change)
    (same : transcript upgrade (.modify dn changes) = transcript upgrade' (.modify dn' changes')) :
    dn = dn' ∧ changes = changes' := by
  have rowwise := rows_unique (newlines_modify single legible) (newlines_modify single' legible') same
  obtain ⟨entity, further⟩ := List.cons.inj (List.cons.inj rowwise).2
  exact ⟨Transcript.field_unique entity,
    Text.map_unique (fun _ _ => Transcript.changeRow_unique) legible legible' further⟩

/-- Name and values are read from the transcript of an Add. -/
theorem add_unique {attributes attributes' : List Attribute} (single : newlines dn = 0) (single' : newlines dn' = 0)
    (legible : ∀ addition ∈ additions attributes, IsName addition.1 ∧ IsRow addition.2)
    (legible' : ∀ addition ∈ additions attributes', IsName addition.1 ∧ IsRow addition.2)
    (same : transcript upgrade (.add dn attributes) = transcript upgrade' (.add dn' attributes')) :
    dn = dn' ∧ additions attributes = additions attributes' := by
  have rowwise := rows_unique (newlines_add single legible) (newlines_add single' legible') same
  obtain ⟨entity, further⟩ := List.cons.inj (List.cons.inj rowwise).2
  rw [Transcript.additionRows_eq, Transcript.additionRows_eq] at further
  refine ⟨Transcript.field_unique entity, Text.map_unique (fun a b fits fits' equal => ?_) legible legible' further⟩
  exact Transcript.additionRow_unique fits.1 fits'.1 fits.2 fits'.2 equal

/-- The transcript of a Modify is none of an Add, whatever stands in them. -/
theorem modify_ne_add (changes : List Change) (attributes : List Attribute) :
    transcript upgrade (.modify dn changes) ≠ transcript upgrade' (.add dn' attributes) := by
  intro same
  rw [transcript_eq_column, transcript_eq_column] at same
  have chars := congrArg String.toList same
  simp only [rows, Text.column_cons, String.toList_append, List.append_assoc] at chars
  have left : '\n' ∉ (field "Type" "Modify").toList := by decide
  have right : '\n' ∉ (field "Type" "Add").toList := by decide
  obtain ⟨types, _⟩ := until_unique left right chars
  exact absurd types (by decide)

end Policy

/-! ## What is recorded -/

variable {σ σ' τ τ' : Type} [Client σ] [HasOutlet σ] [Storage τ] [Client σ'] [HasOutlet σ'] [Storage τ']

/-- Two requests to modify that are recorded alike have the same name and the same changes in the same order, if names
and values are words and the names of the entries have no newline. Two requests to add that are recorded alike have the
same name, and the same values of the same attributes in the same order, even if these values have spaces. A request to
modify is never recorded like one to add. -/
theorem changes_of_recorded (responder responder' : Responder) (id id' : MessageId) (dn dn' : String) (client : σ)
    (client' : σ') (storage : τ) (storage' : τ') :
    let modified changes := requests (responder.handle ⟨id, .modify dn changes⟩ client storage).acts
    let modified' changes := requests (responder'.handle ⟨id', .modify dn' changes⟩ client' storage').acts
    let added attributes := requests (responder.handle ⟨id, .add dn attributes⟩ client storage).acts
    let added' attributes := requests (responder'.handle ⟨id', .add dn' attributes⟩ client' storage').acts
    (∀ changes changes', ∀ request ∈ modified changes, request ∈ modified' changes' →
      newlines dn = 0 → newlines dn' = 0 →
      (∀ change ∈ changes ++ changes', IsLegible change) →
      dn = dn' ∧ changes = changes') ∧
    (∀ attributes attributes', ∀ request ∈ added attributes, request ∈ added' attributes' →
      newlines dn = 0 → newlines dn' = 0 →
      (∀ addition ∈ additions attributes ++ additions attributes', IsName addition.1 ∧ IsRow addition.2) →
      dn = dn' ∧ additions attributes = additions attributes') ∧
    ∀ changes attributes, ∀ request ∈ modified changes, request ∉ added' attributes := by
  intro modified modified' added added'
  refine ⟨?_, ?_, ?_⟩
  · intro changes changes' request recorded recorded' single single' legible
    obtain ⟨here, there⟩ := List.forall_mem_append.mp legible
    exact Policy.modify_unique single single' here there
      ((eq_transcript_of_recorded recorded).symm.trans (eq_transcript_of_recorded recorded'))
  · intro attributes attributes' request recorded recorded' single single' legible
    obtain ⟨here, there⟩ := List.forall_mem_append.mp legible
    exact Policy.add_unique single single' here there
      ((eq_transcript_of_recorded recorded).symm.trans (eq_transcript_of_recorded recorded'))
  · intro changes attributes request recorded recorded'
    exact Policy.modify_ne_add changes attributes
      ((eq_transcript_of_recorded recorded).symm.trans (eq_transcript_of_recorded recorded'))

/-- A change of two values in front of one without any, which is not recorded like the same changes in another order;
and values of one attribute, which are recorded alike whether they are sent together or apart. -/
theorem changes_of_recorded_entry :
    let responder : Responder := ⟨"t", ⟨"token", "now"⟩⟩
    let other : Responder := ⟨"u", ⟨"another", "later"⟩⟩
    let client := Scripted.fresh ⟨.v4 127 0 0 1, 4000, 0⟩
    let recorded operation := requests (responder.handle ⟨7, operation⟩ client Storage.Memory.empty).acts
    let again operation := requests (other.handle ⟨8, operation⟩ client Storage.Memory.empty).acts
    let changes : List Change := [⟨.add, "mail", [Text.bytes "a@b", Text.bytes "-"]⟩, ⟨.delete, "cn", []⟩]
    let octets : List Change := [⟨.add, "mail", [[97, 64, 98], [45]]⟩, ⟨.delete, "cn", []⟩]
    let apart : List Attribute := [⟨"cn", [Text.bytes "a b"]⟩, ⟨"cn", [Text.bytes ""]⟩]
    let together : List Attribute := [⟨"cn", [Text.bytes "a b", Text.bytes ""]⟩]
    let modified := Transcript.modify "cn=x" changes
    let added := Transcript.add "cn=x" apart
    ((modified ∈ recorded (.modify "cn=x" changes) ∧ modified ∈ again (.modify "cn=x" octets)) ∧
      (added ∈ recorded (.add "cn=x" apart) ∧ added ∈ again (.add "cn=x" together)) ∧
      (∀ change ∈ changes ++ octets, IsLegible change) ∧
      ∀ addition ∈ additions apart ++ additions together, IsName addition.1 ∧ IsRow addition.2) ∧
    changes = octets ∧ additions apart = additions together ∧
      modified ∉ again (.modify "cn=x" octets.reverse) ∧ modified ∉ again (.add "cn=x" together) := by
  intro responder other client recorded again changes octets apart together modified added
  have first : modified ∈ recorded (.modify "cn=x" changes) := by
    have ends : (responder.handle ⟨7, .modify "cn=x" changes⟩ client Storage.Memory.empty).result = .ok .proceed :=
      rfl
    exact mem_requests_of_ok ends (List.cons_ne_nil _ _)
  have second : modified ∈ again (.modify "cn=x" octets) := by
    have ends : (other.handle ⟨8, .modify "cn=x" octets⟩ client Storage.Memory.empty).result = .ok .proceed := rfl
    exact mem_requests_of_ok ends (List.cons_ne_nil _ _)
  have third : added ∈ recorded (.add "cn=x" apart) := by
    have ends : (responder.handle ⟨7, .add "cn=x" apart⟩ client Storage.Memory.empty).result = .ok .proceed := rfl
    exact mem_requests_of_ok ends (List.cons_ne_nil _ _)
  have fourth : added ∈ again (.add "cn=x" together) := by
    have ends : (other.handle ⟨8, .add "cn=x" together⟩ client Storage.Memory.empty).result = .ok .proceed := rfl
    exact mem_requests_of_ok ends (List.cons_ne_nil _ _)
  have mail : IsName "mail" := ⟨by decide, rfl⟩
  have cn : IsName "cn" := ⟨by decide, rfl⟩
  have row {text : String} (single : newlines text = 0) : IsRow (Text.bytes text) :=
    ⟨text, Text.ofBytes?_eq_some_iff.mpr rfl, single⟩
  have word {text : String} (some : text ≠ "") (isName : IsName text) : IsWord (Text.bytes text) :=
    ⟨text, Text.ofBytes?_eq_some_iff.mpr rfl, some, isName⟩
  have legible : ∀ change ∈ changes, IsLegible change := by
    rw [List.forall_mem_cons, List.forall_mem_singleton]
    refine ⟨⟨mail, ?_⟩, cn, List.forall_mem_nil _⟩
    rw [List.forall_mem_cons, List.forall_mem_singleton]
    exact ⟨word (by decide) ⟨by decide, rfl⟩, word (by decide) ⟨by decide, rfl⟩⟩
  have legible' : ∀ addition ∈ additions apart, IsName addition.1 ∧ IsRow addition.2 :=
    List.forall_mem_cons.mpr ⟨⟨cn, row rfl⟩, List.forall_mem_singleton.mpr ⟨cn, row rfl⟩⟩
  have bothLegible : ∀ change ∈ changes ++ octets, IsLegible change :=
    List.forall_mem_append.mpr ⟨legible, legible⟩
  have bothLegible' : ∀ addition ∈ additions apart ++ additions together, IsName addition.1 ∧ IsRow addition.2 :=
    List.forall_mem_append.mpr ⟨legible', legible'⟩
  obtain ⟨modifies, adds, differ⟩ :=
    changes_of_recorded responder other 7 8 "cn=x" "cn=x" client client Storage.Memory.empty Storage.Memory.empty
  refine ⟨⟨⟨first, second⟩, ⟨third, fourth⟩, bothLegible, bothLegible'⟩, ?_, ?_, ?_, ?_⟩
  · exact (modifies changes octets modified first second rfl rfl bothLegible).2
  · exact (adds apart together added third fourth rfl rfl bothLegible').2
  · intro reversed
    have legible'' : ∀ change ∈ changes ++ octets.reverse, IsLegible change :=
      List.forall_mem_append.mpr ⟨legible, fun change among => legible change (List.mem_reverse.mp among)⟩
    have same := (modifies changes octets.reverse modified first reversed rfl rfl legible'').2
    exact absurd same (by decide)
  · exact differ changes together modified first

end Responder

end LdapDecoy
