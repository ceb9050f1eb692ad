import LdapDecoy.Json.Read
import LdapDecoy.Proofs.Ldap.Filter.Parts
import LdapDecoy.Proofs.Text.Decoding
import Mathlib.Data.List.Forall2

/-!
# The grammar of filter strings

The string form of RFC 4515, rule by rule, with the filter that each string stands for: all ten kinds, every value in
all its spellings. A list of filters may be empty, a part of a pattern that is empty is no part, and an asterisk alone
is presence. A string is read in one way only where a filter of the six plain kinds is one of its readings.
-/
namespace LdapDecoy.Ldap.Grammar
open Json (hexValue?)
open Text (span_unique)
open Text.Utf8 (encode encodeChar)

/-! ## Rules -/

/-- A character of the name of an attribute, with its options, or of a matching rule. -/
def isNameChar (c : Char) : Bool := c.isAlphanum || c = '-' || c = ';' || c = '.'

structure IsName (s : List Char) : Prop where
  solid : s ≠ []
  chars : ∀ c ∈ s, isNameChar c = true

instance (s : List Char) : Decidable (IsName s) :=
  decidable_of_iff (s ≠ [] ∧ s.all isNameChar = true)
    ⟨fun ⟨solid, chars⟩ => ⟨solid, List.all_eq_true.mp chars⟩, fun ⟨solid, chars⟩ => ⟨solid, List.all_eq_true.mpr chars⟩⟩

/-- The characters that no value holds as they are. -/
def isReserved (c : Char) : Bool := c = '*' || c = '(' || c = ')' || c = '\\' || c.toNat = 0

/-- The octets of a value: those of the characters that stand for themselves, and the ones given by two digits. -/
inductive Spells : List Char → Bytes → Prop where
  | nil : Spells [] []
  | plain {c : Char} {s : List Char} {octets : Bytes} (free : isReserved c = false) (rest : Spells s octets) :
      Spells (c :: s) (encodeChar c ++ octets)
  | code {first second : Char} {high low : Nat} {s : List Char} {octets : Bytes}
      (isHigh : hexValue? first = some high) (isLow : hexValue? second = some low) (rest : Spells s octets) :
      Spells ('\\' :: first :: second :: s) (UInt8.ofNat (16 * high + low) :: octets)

def SpellsText (s : List Char) (value : String) : Prop := Spells s (Text.bytes value)

/-- The beginning or the end of a pattern, which may be missing. -/
inductive IsPart : List Char → Option String → Prop where
  | none : IsPart [] none
  | some {s : List Char} {value : String} (solid : s ≠ []) (spells : SpellsText s value) : IsPart s (some value)

/-- A name behind what marks it, which may be missing. -/
inductive IsMarked (mark : List Char) : List Char → Option String → Prop where
  | none : IsMarked mark [] none
  | some {name : String} (isName : IsName name.toList) : IsMarked mark (mark ++ name.toList) (some name)

/-- The mark of a match that counts the attributes of the distinguished name too. -/
inductive IsFlag : List Char → Bool → Prop where
  | off : IsFlag [] false
  | on {d n : Char} (isD : d.toLower = 'd') (isN : n.toLower = 'n') : IsFlag [':', d, n] true

/-- What stands between the brackets of a filter without filters in it. -/
inductive IsItem : List Char → Filter → Prop where
  | equal {attr value : String} {s : List Char} (name : IsName attr.toList) (spells : SpellsText s value) :
      IsItem (attr.toList ++ '=' :: s) (.equal attr value)
  | approx {attr value : String} {s : List Char} (name : IsName attr.toList) (spells : SpellsText s value) :
      IsItem (attr.toList ++ '~' :: '=' :: s) (.approx attr value)
  | greaterOrEqual {attr value : String} {s : List Char} (name : IsName attr.toList)
      (spells : SpellsText s value) : IsItem (attr.toList ++ '>' :: '=' :: s) (.greaterOrEqual attr value)
  | lessOrEqual {attr value : String} {s : List Char} (name : IsName attr.toList)
      (spells : SpellsText s value) : IsItem (attr.toList ++ '<' :: '=' :: s) (.lessOrEqual attr value)
  | present {attr : String} (name : IsName attr.toList) : IsItem (attr.toList ++ ['=', '*']) (.present attr)
  | substring {attr : String} {parts : Substrings} {initial final : List Char} {middle : List (List Char)}
      (name : IsName attr.toList) (begins : IsPart initial parts.initial)
      (between : List.Forall₂ SpellsText middle parts.middle) (ends : IsPart final parts.final)
      (solid : parts ≠ ⟨none, [], none⟩) :
      IsItem (attr.toList ++ '=' :: (initial ++ '*' :: (middle.flatMap (· ++ ['*']) ++ final)))
        (.substring attr parts)
  | extensible {rule : RuleMatch} {front flag name s : List Char} (attr : IsMarked [] front rule.attr)
      (isFlag : IsFlag flag rule.dnAttributes) (isRule : IsMarked [':'] name rule.rule)
      (solid : rule.attr ≠ none ∨ rule.rule ≠ none) (spells : SpellsText s rule.value) :
      IsItem (front ++ (flag ++ (name ++ ':' :: '=' :: s))) (.extensible rule)

/-- What has a string form: a filter, or filters one behind the other. -/
inductive Phrase where
  | filter (filter : Filter)
  | filters (filters : List Filter)

/-- The rules for these. -/
inductive Derives : List Char → Phrase → Prop where
  | all {s : List Char} {filters : List Filter} (inside : Derives s (.filters filters)) :
      Derives ('(' :: '&' :: (s ++ [')'])) (.filter (.all filters))
  | any {s : List Char} {filters : List Filter} (inside : Derives s (.filters filters)) :
      Derives ('(' :: '|' :: (s ++ [')'])) (.filter (.any filters))
  | not {s : List Char} {filter : Filter} (inside : Derives s (.filter filter)) :
      Derives ('(' :: '!' :: (s ++ [')'])) (.filter (.not filter))
  | item {s : List Char} {filter : Filter} (isItem : IsItem s filter) :
      Derives ('(' :: (s ++ [')'])) (.filter filter)
  | nil : Derives [] (.filters [])
  | cons {s more : List Char} {filter : Filter} {filters : List Filter} (first : Derives s (.filter filter))
      (rest : Derives more (.filters filters)) : Derives (s ++ more) (.filters (filter :: filters))

/-- Filters of the six plain kinds, with the names that attributes have and without empty parts in their patterns. -/
inductive IsPlain : Filter → Prop where
  | all {filters : List Filter} (each : ∀ filter ∈ filters, IsPlain filter) : IsPlain (.all filters)
  | any {filters : List Filter} (each : ∀ filter ∈ filters, IsPlain filter) : IsPlain (.any filters)
  | not {filter : Filter} (inside : IsPlain filter) : IsPlain (.not filter)
  | equal {attr value : String} (name : IsName attr.toList) : IsPlain (.equal attr value)
  | present {attr : String} (name : IsName attr.toList) : IsPlain (.present attr)
  | substring {attr : String} {parts : Substrings} (name : IsName attr.toList)
      (solid : parts ≠ ⟨none, [], none⟩) (begins : parts.initial ≠ some "") (between : "" ∉ parts.middle)
      (ends : parts.final ≠ some "") : IsPlain (.substring attr parts)

/-! ## Values -/

theorem Spells.unique {s : List Char} {x y : Bytes} (left : Spells s x) (right : Spells s y) : x = y := by
  have escape : isReserved '\\' = true := by decide
  induction left generalizing y with
  | nil =>
      cases right
      rfl
  | plain free rest ih =>
      cases right with
      | plain _ rest' => rw [ih rest']
      | code _ _ _ => simp [escape] at free
  | code isHigh isLow rest ih =>
      cases right with
      | plain free _ => simp [escape] at free
      | code isHigh' isLow' rest' =>
          obtain rfl := Option.some.inj (isHigh.symm.trans isHigh')
          obtain rfl := Option.some.inj (isLow.symm.trans isLow')
          rw [ih rest']

theorem bytes_injective {s t : String} (same : Text.bytes s = Text.bytes t) : s = t := by
  have read := Text.Utf8.decode_encode s.toList
  rw [← Text.bytes, same, Text.bytes, Text.Utf8.decode_encode] at read
  exact (String.toList_injective (Except.ok.inj read)).symm

theorem SpellsText.unique {s : List Char} {v w : String} (left : SpellsText s v) (right : SpellsText s w) :
    v = w :=
  bytes_injective (Spells.unique left right)

/-- Whether a piece of an item ends at a character. -/
def endsPiece (c : Char) : Bool := c = '*' || c = ')'

theorem not_endsPiece_of_hexValue? {c : Char} {n : Nat} (digit : hexValue? c = some n) : endsPiece c = false := by
  by_contra ends
  simp only [endsPiece, Bool.not_eq_false, Bool.or_eq_true, decide_eq_true_eq] at ends
  rcases ends with rfl | rfl <;> cases digit

theorem Spells.within {s : List Char} {x : Bytes} (spells : Spells s x) : ∀ c ∈ s, endsPiece c = false := by
  induction spells with
  | nil => exact List.forall_mem_nil _
  | @plain c s octets free rest ih =>
      have plain : endsPiece c = false := by
        simp only [isReserved, Bool.or_eq_false_iff] at free
        simp [endsPiece, free]
      exact List.forall_mem_cons.mpr ⟨plain, ih⟩
  | code isHigh isLow rest ih =>
      simp only [List.forall_mem_cons]
      exact ⟨by decide, not_endsPiece_of_hexValue? isHigh, not_endsPiece_of_hexValue? isLow, ih⟩

/-! ## Pieces of a text -/

/-- Pieces with asterisks between them. -/
def starred (first : List Char) (more : List (List Char)) : List Char := first ++ more.flatMap ('*' :: ·)

theorem starred_nil (first : List Char) : starred first [] = first := List.append_nil first

theorem starred_cons (first second : List Char) (more : List (List Char)) :
    starred first (second :: more) = first ++ '*' :: starred second more := by
  simp [starred]

theorem starred_concat (first : List Char) (more : List (List Char)) (last : List Char) :
    starred first (more ++ [last]) = first ++ '*' :: (more.flatMap (· ++ ['*']) ++ last) := by
  induction more generalizing first with
  | nil => simp [starred]
  | cons second more ih => simp [starred_cons, ih]

theorem starred_unique {first first' rest rest' : List Char} {more more' : List (List Char)}
    (left : ∀ piece ∈ first :: more, ∀ c ∈ piece, endsPiece c = false)
    (right : ∀ piece ∈ first' :: more', ∀ c ∈ piece, endsPiece c = false)
    (same : starred first more ++ ')' :: rest = starred first' more' ++ ')' :: rest') :
    first = first' ∧ more = more' := by
  -- a piece ends at the next asterisk or at the bracket, whichever comes first
  have piece {run run' rest rest' : List Char} {c d : Char} (left : ∀ e ∈ run, endsPiece e = false)
      (right : ∀ e ∈ run', endsPiece e = false) (stop : endsPiece c = true) (stop' : endsPiece d = true)
      (same : run ++ c :: rest = run' ++ d :: rest') : run = run' ∧ c = d ∧ rest = rest' :=
    span_unique (p := fun e => !endsPiece e) (by simpa using left) (by simpa using right) (by simpa using stop)
      (by simpa using stop') same
  induction more generalizing first first' more' with
  | nil =>
      cases more' with
      | nil =>
          rw [starred_nil, starred_nil] at same
          exact ⟨(piece (left _ (.head _)) (right _ (.head _)) rfl rfl same).1, rfl⟩
      | cons second more' =>
          simp only [starred_nil, starred_cons, List.append_assoc, List.cons_append] at same
          have different := (piece (left _ (.head _)) (right _ (.head _)) rfl rfl same).2.1
          simp at different
  | cons second more ih =>
      cases more' with
      | nil =>
          simp only [starred_nil, starred_cons, List.append_assoc, List.cons_append] at same
          have different := (piece (left _ (.head _)) (right _ (.head _)) rfl rfl same).2.1
          simp at different
      | cons second' more' =>
          rw [starred_cons, starred_cons, List.append_assoc, List.append_assoc] at same
          obtain ⟨rfl, _, further⟩ := piece (left _ (.head _)) (right _ (.head _)) rfl rfl same
          rw [List.forall_mem_cons] at left right
          obtain ⟨rfl, rfl⟩ := ih left.2 right.2 further
          exact ⟨rfl, rfl⟩

/-! ## Items -/

/-- What the pieces behind an attribute and an equals sign stand for. -/
inductive Denotes (attr : String) (first : List Char) (more : List (List Char)) : Filter → Prop where
  | equal {value : String} (alone : more = []) (spells : SpellsText first value) :
      Denotes attr first more (.equal attr value)
  | present (empty : first = []) (alone : more = [[]]) : Denotes attr first more (.present attr)
  | substring {parts : Substrings} {final : List Char} {middle : List (List Char)}
      (split : more = middle ++ [final]) (begins : IsPart first parts.initial)
      (between : List.Forall₂ SpellsText middle parts.middle) (ends : IsPart final parts.final)
      (solid : parts ≠ ⟨none, [], none⟩) : Denotes attr first more (.substring attr parts)

theorem IsPart.within {s : List Char} {part : Option String} (isPart : IsPart s part) :
    ∀ c ∈ s, endsPiece c = false := by
  cases isPart with
  | none => exact List.forall_mem_nil _
  | some solid spells => exact Spells.within spells

theorem IsPart.unique {s : List Char} {left right : Option String} (isLeft : IsPart s left)
    (isRight : IsPart s right) : left = right := by
  cases isLeft with
  | none =>
      cases isRight with
      | none => rfl
      | some solid spells => exact absurd rfl solid
  | some solid spells =>
      cases isRight with
      | none => exact absurd rfl solid
      | some solid' spells' => rw [spells.unique spells']

/-- Nothing around an asterisk is no pattern. -/
theorem eq_none_of_isPart {parts : Substrings} (begins : IsPart [] parts.initial)
    (between : List.Forall₂ SpellsText [] parts.middle) (ends : IsPart [] parts.final) :
    parts = ⟨none, [], none⟩ := by
  obtain ⟨initial, middle, final⟩ := parts
  have none₁ : initial = none := begins.unique .none
  have none₂ : final = none := ends.unique .none
  have none₃ : middle = [] := List.forall₂_nil_left_iff.mp between
  rw [none₁, none₂, none₃]

theorem forall₂_within {middle : List (List Char)} {values : List String}
    (between : List.Forall₂ SpellsText middle values) :
    ∀ piece ∈ middle, ∀ c ∈ piece, endsPiece c = false := by
  induction between with
  | nil => exact List.forall_mem_nil _
  | cons spells _ ih => exact List.forall_mem_cons.mpr ⟨Spells.within spells, ih⟩

theorem forall₂_unique {middle : List (List Char)} {left right : List String}
    (isLeft : List.Forall₂ SpellsText middle left) (isRight : List.Forall₂ SpellsText middle right) :
    left = right := by
  induction isLeft generalizing right with
  | nil => exact (List.forall₂_nil_left_iff.mp isRight).symm
  | cons spells _ ih =>
      cases isRight with
      | cons spells' rest => rw [SpellsText.unique spells spells', ih rest]

theorem Denotes.within {attr : String} {first : List Char} {more : List (List Char)} {filter : Filter}
    (denotes : Denotes attr first more filter) :
    ∀ piece ∈ first :: more, ∀ c ∈ piece, endsPiece c = false := by
  cases denotes with
  | equal alone spells =>
      rw [alone, List.forall_mem_singleton]
      exact Spells.within spells
  | present empty alone => simp [empty, alone]
  | substring split begins between ends solid =>
      rw [split, List.forall_mem_cons, List.forall_mem_append, List.forall_mem_singleton]
      exact ⟨begins.within, forall₂_within between, ends.within⟩

theorem Denotes.unique {attr : String} {first : List Char} {more : List (List Char)} {left right : Filter}
    (isLeft : Denotes attr first more left) (isRight : Denotes attr first more right) : left = right := by
  -- an asterisk alone has no parts around it
  have notPresence {parts : Substrings} {final : List Char} {middle : List (List Char)} (empty : first = [])
      (alone : more = [[]]) (split : more = middle ++ [final]) (begins : IsPart first parts.initial)
      (between : List.Forall₂ SpellsText middle parts.middle) (ends : IsPart final parts.final) :
      parts = ⟨none, [], none⟩ := by
    rw [alone] at split
    obtain ⟨rfl, rfl⟩ : middle = [] ∧ final = [] := by simpa [List.append_eq_singleton_iff] using split.symm
    rw [empty] at begins
    exact eq_none_of_isPart begins between ends
  cases isLeft with
  | equal alone spells =>
      cases isRight with
      | equal _ spells' => rw [spells.unique spells']
      | present _ alone' => cases alone.symm.trans alone'
      | substring split => simp [alone] at split
  | present empty alone =>
      cases isRight with
      | equal alone' => cases alone.symm.trans alone'
      | present => rfl
      | substring split begins between ends solid =>
          exact absurd (notPresence empty alone split begins between ends) solid
  | @substring parts final middle split begins between ends solid =>
      cases isRight with
      | equal alone => simp [alone] at split
      | present empty alone => exact absurd (notPresence empty alone split begins between ends) solid
      | @substring parts' final' middle' split' begins' between' ends' _ =>
          obtain ⟨rfl, same⟩ := List.append_inj' (split.symm.trans split') rfl
          obtain rfl := List.singleton_inj.mp same
          obtain ⟨initial, values, last⟩ := parts
          obtain ⟨initial', values', last'⟩ := parts'
          obtain rfl : initial = initial' := begins.unique begins'
          obtain rfl : values = values' := forall₂_unique between between'
          obtain rfl : last = last' := ends.unique ends'
          rfl

/-- A character behind a name that stands in no plain filter. -/
def isMark (c : Char) : Bool := c = '~' || c = '<' || c = '>' || c = ':'

theorem IsMarked.names {s : List Char} {name : Option String} (isMarked : IsMarked [] s name) :
    ∀ c ∈ s, isNameChar c = true := by
  cases isMarked with
  | none => exact List.forall_mem_nil _
  | some isName => exact isName.chars

/-- What stands behind the attribute of an extensible match begins with a colon. -/
theorem exists_colon {flag name : List Char} {isOn : Bool} {rule : Option String} (isFlag : IsFlag flag isOn)
    (isRule : IsMarked [':'] name rule) (s : List Char) : ∃ rest, flag ++ (name ++ ':' :: s) = ':' :: rest := by
  cases isFlag with
  | off => cases isRule <;> exact ⟨_, rfl⟩
  | on _ _ => exact ⟨_, rfl⟩

/-- Behind the name in front of an item stands an equals sign and pieces, or a mark and no plain filter. -/
theorem IsItem.shape {s : List Char} {filter : Filter} (isItem : IsItem s filter) :
    (∃ attr first more, IsName attr.toList ∧ s = attr.toList ++ '=' :: starred first more ∧
        Denotes attr first more filter) ∨
      ∃ front mark rest, (∀ c ∈ front, isNameChar c = true) ∧ isMark mark = true ∧ s = front ++ mark :: rest ∧
        ¬ IsPlain filter := by
  cases isItem with
  | @equal attr value s name spells =>
      exact .inl ⟨attr, s, [], name, by rw [starred_nil], .equal rfl spells⟩
  | @present attr name => exact .inl ⟨attr, [], [[]], name, rfl, .present rfl rfl⟩
  | @substring attr parts initial final middle name begins between ends solid =>
      exact .inl ⟨attr, initial, middle ++ [final], name, by rw [starred_concat],
        .substring rfl begins between ends solid⟩
  | @approx attr value s name spells =>
      exact .inr ⟨attr.toList, '~', '=' :: s, name.chars, rfl, rfl, nofun⟩
  | @greaterOrEqual attr value s name spells =>
      exact .inr ⟨attr.toList, '>', '=' :: s, name.chars, rfl, rfl, nofun⟩
  | @lessOrEqual attr value s name spells =>
      exact .inr ⟨attr.toList, '<', '=' :: s, name.chars, rfl, rfl, nofun⟩
  | @extensible rule front flag name s attr isFlag isRule solid spells =>
      obtain ⟨rest, colon⟩ := exists_colon isFlag isRule ('=' :: s)
      exact .inr ⟨front, ':', rest, attr.names, rfl, by rw [colon], nofun⟩

theorem IsItem.exists_head {s : List Char} {filter : Filter} (isItem : IsItem s filter) :
    ∃ c rest, s = c :: rest ∧ (isNameChar c = true ∨ isMark c = true) := by
  rcases isItem.shape with ⟨attr, first, more, name, rfl, _⟩ | ⟨front, mark, rest, names, isMark, rfl, _⟩
  · obtain ⟨c, behind, split⟩ := List.exists_cons_of_ne_nil name.solid
    refine ⟨c, behind ++ '=' :: starred first more, by rw [split]; rfl, .inl (name.chars c ?_)⟩
    rw [split]
    exact List.mem_cons_self
  · cases front with
    | nil => exact ⟨mark, rest, rfl, .inr isMark⟩
    | cons c front => exact ⟨c, front ++ mark :: rest, rfl, .inl (names c (.head _))⟩

/-- No item begins with the sign of a list or of a negation. -/
theorem IsItem.not_sign {s x y : List Char} {filter : Filter} {c : Char} (isItem : IsItem s filter)
    (sign : c = '&' ∨ c = '|' ∨ c = '!') : c :: x ≠ s ++ y := by
  obtain ⟨d, rest, rfl, begins⟩ := isItem.exists_head
  intro same
  obtain ⟨rfl, _⟩ := List.cons.inj same
  rcases sign with rfl | rfl | rfl <;> simp [isNameChar, isMark] at begins

/-- Two items in front of closing brackets are one, if the second one is plain. -/
theorem IsItem.unique {s t x y : List Char} {filter other : Filter} (isItem : IsItem s filter)
    (isOther : IsItem t other) (plain : IsPlain other) (same : s ++ ')' :: x = t ++ ')' :: y) :
    s = t ∧ filter = other := by
  rcases isOther.shape with ⟨attr', first', more', name', rfl, denotes'⟩ | ⟨_, _, _, _, _, _, notPlain⟩
  · rcases isItem.shape with ⟨attr, first, more, name, rfl, denotes⟩ | ⟨front, mark, rest, names, isMark, rfl, _⟩
    · simp only [List.append_assoc, List.cons_append] at same
      obtain ⟨attrs, _, further⟩ := span_unique name.chars name'.chars (by decide) (by decide) same
      obtain rfl := String.toList_injective attrs
      obtain ⟨rfl, rfl⟩ := starred_unique denotes.within denotes'.within further
      exact ⟨rfl, denotes.unique denotes'⟩
    · have notName : isNameChar mark = false := by
        simp only [Grammar.isMark, Bool.or_eq_true, decide_eq_true_eq] at isMark
        rcases isMark with ((rfl | rfl) | rfl) | rfl <;> decide
      simp only [List.append_assoc, List.cons_append] at same
      obtain ⟨_, rfl, _⟩ := span_unique names name'.chars notName (by decide) same
      cases isMark
  · exact absurd plain notPlain

/-! ## Filters -/

theorem Derives.exists_head {s : List Char} {filter : Filter} (derives : Derives s (.filter filter)) :
    ∃ rest, s = '(' :: rest := by
  cases derives <;> exact ⟨_, rfl⟩

/-- Whether a string is all that a plain phrase can be read from in front of anything, and only as this phrase. -/
def Alone (s : List Char) : Phrase → Prop
  | .filter filter => ∀ other t x y, IsPlain other → Derives t (.filter other) → s ++ x = t ++ y →
      s = t ∧ filter = other
  | .filters filters => ∀ others t x y, (∀ other ∈ others, IsPlain other) → Derives t (.filters others) →
      s ++ ')' :: x = t ++ ')' :: y → s = t ∧ filters = others

theorem Derives.alone {s : List Char} {phrase : Phrase} (derives : Derives s phrase) : Alone s phrase := by
  induction derives with
  | all inside ih =>
      intro other t x y plain derives same
      cases derives with
      | all inside' =>
          cases plain with
          | all each =>
              obtain ⟨rfl, rfl⟩ := ih _ _ x y each inside' (by simpa using same)
              exact ⟨rfl, rfl⟩
      | any _ => simp at same
      | not _ => simp at same
      | item isItem => exact absurd (by simpa using same) (isItem.not_sign (.inl rfl))
  | any inside ih =>
      intro other t x y plain derives same
      cases derives with
      | all _ => simp at same
      | any inside' =>
          cases plain with
          | any each =>
              obtain ⟨rfl, rfl⟩ := ih _ _ x y each inside' (by simpa using same)
              exact ⟨rfl, rfl⟩
      | not _ => simp at same
      | item isItem => exact absurd (by simpa using same) (isItem.not_sign (.inr (.inl rfl)))
  | not inside ih =>
      intro other t x y plain derives same
      cases derives with
      | all _ => simp at same
      | any _ => simp at same
      | not inside' =>
          cases plain with
          | not one =>
              obtain ⟨rfl, rfl⟩ := ih _ _ (')' :: x) (')' :: y) one inside' (by simpa using same)
              exact ⟨rfl, rfl⟩
      | item isItem => exact absurd (by simpa using same) (isItem.not_sign (.inr (.inr rfl)))
  | item isItem =>
      intro other t x y plain derives same
      cases derives with
      | all _ => exact absurd (by simpa using same.symm) (isItem.not_sign (.inl rfl))
      | any _ => exact absurd (by simpa using same.symm) (isItem.not_sign (.inr (.inl rfl)))
      | not _ => exact absurd (by simpa using same.symm) (isItem.not_sign (.inr (.inr rfl)))
      | item isItem' =>
          obtain ⟨rfl, rfl⟩ := isItem.unique isItem' plain (x := x) (y := y) (by simpa using same)
          exact ⟨rfl, rfl⟩
  | nil =>
      intro others t x y plain derives same
      cases derives with
      | nil => exact ⟨rfl, rfl⟩
      | cons first rest =>
          obtain ⟨inside, rfl⟩ := first.exists_head
          simp at same
  | cons first rest ihFirst ihRest =>
      intro others t x y plain derives same
      cases derives with
      | nil =>
          obtain ⟨inside, rfl⟩ := first.exists_head
          simp at same
      | cons first' rest' =>
          obtain ⟨plain, plains⟩ := List.forall_mem_cons.mp plain
          rw [List.append_assoc, List.append_assoc] at same
          obtain ⟨rfl, rfl⟩ := ihFirst _ _ _ _ plain first' same
          obtain ⟨rfl, rfl⟩ := ihRest _ _ x y plains rest' (List.append_cancel_left same)
          exact ⟨rfl, rfl⟩

end LdapDecoy.Ldap.Grammar
