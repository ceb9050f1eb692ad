import LdapDecoy.Proofs.Ldap.Filter.Display
import LdapDecoy.Proofs.Ldap.Filter.Grammar
import Mathlib.Data.List.Infix

/-!
# The brackets of filter strings

How deep the brackets of a string stand, counted from the left. A filter of a plain kind is one bracketed expression
whatever its values are, for no value is written with a bracket. What stands in full between the brackets of a filter
keeps the brackets of its texts, and there it depends on them.
-/
namespace LdapDecoy.Ldap
open Display
open Text.Quoted (encode)

/-! ## Depth -/

/-- What a character adds to the depth. -/
def weight (c : Char) : Int := if c = '(' then 1 else if c = ')' then -1 else 0

def depth : List Char → Int
  | [] => 0
  | c :: s => weight c + depth s

@[simp] theorem depth_nil : depth [] = 0 := rfl

@[simp] theorem depth_cons (c : Char) (s : List Char) : depth (c :: s) = weight c + depth s := rfl

@[simp] theorem depth_append (s t : List Char) : depth (s ++ t) = depth s + depth t := by
  induction s with
  | nil => rw [List.nil_append, depth_nil, Int.zero_add]
  | cons c s ih => rw [List.cons_append, depth_cons, depth_cons, ih, Int.add_assoc]

@[simp] theorem weight_opening : weight '(' = 1 := rfl

@[simp] theorem weight_closing : weight ')' = -1 := rfl

/-- One expression in brackets: the first bracket is closed by the last character and not before. -/
structure Bracketed (s : List Char) : Prop where
  opens : s.head? = some '('
  inside : ∀ front, front <+: s → front ≠ [] → front ≠ s → 1 ≤ depth front
  closed : depth s = 0

instance (s : List Char) : Decidable (Bracketed s) :=
  decidable_of_iff (s.head? = some '(' ∧ (∀ front ∈ s.inits, front ≠ [] → front ≠ s → 1 ≤ depth front) ∧ depth s = 0)
    ⟨fun ⟨opens, inside, closed⟩ => ⟨opens, fun front begins => inside front ((List.mem_inits _ _).mpr begins), closed⟩,
      fun ⟨opens, inside, closed⟩ => ⟨opens, fun front among => inside front ((List.mem_inits _ _).mp among), closed⟩⟩

/-- Whether a text closes what it opens, and at no place more than `below` brackets that are open in front of it. -/
structure Level (below : Nat) (s : List Char) : Prop where
  above : ∀ front, front <+: s → -(below : Int) ≤ depth front
  closed : depth s = 0

instance (below : Nat) (s : List Char) : Decidable (Level below s) :=
  decidable_of_iff ((∀ front ∈ s.inits, -(below : Int) ≤ depth front) ∧ depth s = 0)
    ⟨fun ⟨above, closed⟩ => ⟨fun front begins => above front ((List.mem_inits _ _).mpr begins), closed⟩,
      fun ⟨above, closed⟩ => ⟨fun front among => above front ((List.mem_inits _ _).mp among), closed⟩⟩

theorem Level.append {below : Nat} {s t : List Char} (first : Level below s) (second : Level below t) :
    Level below (s ++ t) where
  above := by
    rintro front ⟨back, whole⟩
    rcases List.append_eq_append_iff.mp whole with ⟨rest, rfl, _⟩ | ⟨more, rfl, rfl⟩
    · exact first.above front (List.prefix_append front rest)
    · rw [depth_append, first.closed, Int.zero_add]
      exact second.above more (List.prefix_append more back)
  closed := by rw [depth_append, first.closed, second.closed, Int.add_zero]

/-- The beginnings of a text in brackets. -/
theorem prefix_wrap_cases {s front : List Char} (begins : front <+: '(' :: (s ++ [')'])) :
    front = [] ∨ (∃ within, within <+: s ∧ front = '(' :: within) ∨ front = '(' :: (s ++ [')']) := by
  rcases List.prefix_cons_iff.mp begins with rfl | ⟨behind, rfl, further⟩
  · exact .inl rfl
  · rcases List.prefix_concat_iff.mp further with rfl | within
    · exact .inr (.inr rfl)
    · exact .inr (.inl ⟨behind, within, rfl⟩)

theorem depth_wrap (s : List Char) : depth ('(' :: (s ++ [')'])) = depth s := by
  simp only [depth_cons, depth_append, weight_opening, weight_closing, depth_nil]
  omega

theorem prefix_wrap {s within : List Char} (begins : within <+: s) : '(' :: within <+: '(' :: (s ++ [')']) :=
  List.cons_prefix_cons.mpr ⟨rfl, begins.trans (List.prefix_append s _)⟩

theorem level_wrap {below : Nat} {s : List Char} : Level below ('(' :: (s ++ [')'])) ↔ Level (below + 1) s := by
  constructor
  · rintro ⟨above, closed⟩
    refine ⟨?_, (depth_wrap s).symm.trans closed⟩
    intro within begins
    have least := above _ (prefix_wrap begins)
    rw [depth_cons, weight_opening] at least
    omega
  · rintro ⟨above, closed⟩
    refine ⟨?_, (depth_wrap s).trans closed⟩
    intro front begins
    rcases prefix_wrap_cases begins with rfl | ⟨within, inner, rfl⟩ | rfl
    · rw [depth_nil]
      omega
    · have least := above within inner
      rw [depth_cons, weight_opening]
      omega
    · rw [depth_wrap, closed]
      omega

theorem bracketed_wrap {s : List Char} : Bracketed ('(' :: (s ++ [')'])) ↔ Level 0 s := by
  constructor
  · rintro ⟨_, inside, closed⟩
    refine ⟨?_, (depth_wrap s).symm.trans closed⟩
    intro within begins
    have shorter : '(' :: within ≠ '(' :: (s ++ [')']) := by
      intro same
      have lengths := congrArg List.length same
      have short := begins.length_le
      simp only [List.length_cons, List.length_append, List.length_nil] at lengths
      omega
    have least := inside _ (prefix_wrap begins) (List.cons_ne_nil _ _) shorter
    rw [depth_cons, weight_opening] at least
    omega
  · rintro ⟨above, closed⟩
    refine ⟨rfl, ?_, (depth_wrap s).trans closed⟩
    intro front begins solid shorter
    rcases prefix_wrap_cases begins with rfl | ⟨within, inner, rfl⟩ | rfl
    · exact absurd rfl solid
    · have least := above within inner
      rw [depth_cons, weight_opening]
      omega
    · exact absurd rfl shorter

theorem Bracketed.level {s : List Char} (bracketed : Bracketed s) : Level 0 s where
  above := by
    intro front begins
    by_cases empty : front = []
    · rw [empty]
      decide
    by_cases whole : front = s
    · rw [whole, bracketed.closed]
      decide
    · exact Int.le_trans (by decide) (bracketed.inside front begins empty whole)
  closed := bracketed.closed

/-! ## The brackets alone -/

def brackets (s : List Char) : List Char := s.filter fun c => c = '(' || c = ')'

@[simp] theorem brackets_append (s t : List Char) : brackets (s ++ t) = brackets s ++ brackets t :=
  List.filter_append ..

@[simp] theorem brackets_opening (s : List Char) : brackets ('(' :: s) = '(' :: brackets s := rfl

theorem brackets_other {c : Char} {s : List Char} (bare : c ≠ '(' ∧ c ≠ ')') : brackets (c :: s) = brackets s :=
  List.filter_cons_of_neg (by simp [bare])

theorem brackets_flatMap {α : Type} (f : α → List Char) (items : List α) :
    brackets (items.flatMap f) = items.flatMap fun a => brackets (f a) :=
  List.filter_flatMap

theorem depth_brackets (s : List Char) : depth (brackets s) = depth s := by
  induction s with
  | nil => rfl
  | cons c s ih =>
      rw [brackets, List.filter_cons]
      split
      · rw [depth_cons, depth_cons, ← brackets, ih]
      · rename_i neither
        simp only [Bool.or_eq_true, decide_eq_true_eq, not_or] at neither
        rw [depth_cons, ← brackets, ih, weight, if_neg neither.1, if_neg neither.2, Int.zero_add]

theorem level_brackets {below : Nat} {s : List Char} : Level below (brackets s) ↔ Level below s := by
  constructor
  · rintro ⟨above, closed⟩
    refine ⟨?_, (depth_brackets s).symm.trans closed⟩
    intro front begins
    rw [← depth_brackets]
    exact above _ (begins.filter _)
  · rintro ⟨above, closed⟩
    refine ⟨?_, (depth_brackets s).trans closed⟩
    intro front begins
    obtain ⟨whole, inner, rfl⟩ := List.prefix_filter_iff.mp begins
    rw [← brackets, depth_brackets]
    exact above whole inner

theorem level_congr {below : Nat} {s t : List Char} (same : brackets s = brackets t) :
    Level below s ↔ Level below t := by
  rw [← level_brackets, same, level_brackets]

theorem brackets_eq_nil {s : List Char} (bare : ∀ c ∈ s, c ≠ '(' ∧ c ≠ ')') : brackets s = [] := by
  apply List.filter_eq_nil_iff.mpr
  intro c among
  simp [bare c among]

theorem brackets_of_all {p : Char → Bool} {s : List Char} (all : ∀ c ∈ s, p c = true) (opening : p '(' = false)
    (closing : p ')' = false) : brackets s = [] := by
  apply brackets_eq_nil
  intro c among
  have holds := all c among
  constructor
  · rintro rfl
    rw [opening] at holds
    cases holds
  · rintro rfl
    rw [closing] at holds
    cases holds

theorem level_of_bare {s : List Char} (bare : brackets s = []) : Level 0 s := by
  rw [← level_brackets, bare]
  exact ⟨by simp, rfl⟩

/-! ## What is written of texts -/

theorem brackets_encodeChar (c : Char) : brackets (Text.Quoted.encodeChar c) = brackets [c] := by
  by_cases bracket : c = '(' ∨ c = ')'
  · rcases bracket with rfl | rfl <;> rfl
  · rw [not_or] at bracket
    -- neither the character itself nor a mark of its escape is a bracket
    have ofMarks : ∀ d ∈ Text.Quoted.marks, d ≠ '(' ∧ d ≠ ')' := List.all_iff_forall_prop.mp (by decide)
    rw [brackets_eq_nil (List.forall_mem_singleton.mpr bracket)]
    apply brackets_eq_nil
    intro d among
    rcases Text.Quoted.mem_encodeChar among with ⟨rfl, _⟩ | mark
    · exact bracket
    · exact ofMarks d mark

/-- Quotes and escapes neither add brackets nor take some away. -/
theorem brackets_quoted (s : String) : brackets (quoted s) = brackets s.toList := by
  have encoded : brackets (encode s.toList) = brackets s.toList := by
    simp only [encode, brackets_flatMap, brackets_encodeChar]
    rw [← brackets_flatMap, List.flatMap_singleton']
  rw [quoted_eq, ← encoded]
  simp [brackets]

theorem brackets_escapeValue (value : String) : brackets (escapeValue value) = [] := by
  rw [escapeValue, brackets_flatMap]
  apply List.flatMap_eq_nil_iff.mpr
  intro c _
  unfold escapeValueChar
  iterate 5
    split
    · rfl
  rename_i opening closing _ _
  exact brackets_eq_nil (List.forall_mem_singleton.mpr ⟨opening, closing⟩)

theorem brackets_pattern (parts : Substrings) : brackets parts.pattern = [] := by
  have between : brackets (parts.middle.flatMap fun part => escapeValue part ++ ['*']) = [] := by
    rw [brackets_flatMap]
    apply List.flatMap_eq_nil_iff.mpr
    intro text _
    rw [brackets_append, brackets_escapeValue]
    rfl
  have around (part : Option String) : brackets ((part.map escapeValue).getD []) = [] := by
    cases part with
    | none => rfl
    | some s => exact brackets_escapeValue s
  rw [Substrings.pattern, brackets_append, around, List.nil_append, brackets_other (by decide), brackets_append,
    between, around]
  rfl

/-! ## What stands in full -/

theorem brackets_intercalate (items : List (List Char)) :
    brackets (List.intercalate separator items) = items.flatMap brackets := by
  cases items with
  | nil => rfl
  | cons first more =>
      have bare : brackets separator = [] := rfl
      simp only [intercalate_cons, brackets_append, brackets_flatMap, bare, List.nil_append, List.flatMap_cons]

theorem brackets_call {name : String} (bare : brackets name.toList = []) (arguments : List (List Char)) :
    brackets (call name arguments) = '(' :: (arguments.flatMap brackets ++ [')']) := by
  rw [call, brackets_append, bare, brackets_opening, brackets_append, brackets_intercalate]
  rfl

/-- What a text that may be missing shows of itself, in the brackets around it. -/
def enclosed : Option String → List Char
  | none => []
  | some s => '(' :: (s.toList ++ [')'])

theorem brackets_option (part : Option String) : brackets (option part) = brackets (enclosed part) := by
  cases part with
  | none => rfl
  | some s =>
      rw [option, brackets_call rfl, List.flatMap_singleton, brackets_quoted, enclosed, brackets_opening,
        brackets_append]
      rfl

theorem RuleMatch.brackets_display (rule : RuleMatch) :
    brackets rule.display = brackets (enclosed rule.rule ++ enclosed rule.attr ++ rule.value.toList) := by
  have flag : brackets (bool rule.dnAttributes) = [] := by cases rule.dnAttributes <;> rfl
  simp only [display_eq, brackets_append, brackets_option, brackets_quoted, flag]
  simp [brackets]

namespace Filter

/-- The characters of the attribute that a filter compares; a match by a rule may do without one. -/
def name : Filter → List Char
  | .equal attr _ => attr.toList
  | .substring attr _ => attr.toList
  | .greaterOrEqual attr _ => attr.toList
  | .lessOrEqual attr _ => attr.toList
  | .present attr => attr.toList
  | .approx attr _ => attr.toList
  | _ => []

/-- The texts that stand in full in the string of a filter, in their order; the other forms have none. -/
def shown : Filter → List Char
  | .greaterOrEqual _ value => value.toList
  | .lessOrEqual _ value => value.toList
  | .approx _ value => value.toList
  | .extensible rule => enclosed rule.rule ++ enclosed rule.attr ++ rule.value.toList
  | _ => []

/-- Whether every attribute that a filter compares, inside it too, has only characters of names. -/
def Named (filter : Filter) : Prop := ∀ part ∈ filter.parts, ∀ c ∈ part.name, Grammar.isNameChar c = true

instance (filter : Filter) : Decidable filter.Named :=
  decidable_of_iff ((filter.parts.all fun part => part.name.all Grammar.isNameChar) = true) (by simp [Named])

theorem bracketed_item {attr : String} {value : List Char} (named : ∀ c ∈ attr.toList, Grammar.isNameChar c = true)
    (bare : brackets value = []) : Bracketed (item attr value) := by
  have inside : brackets (attr.toList ++ '=' :: value) = [] := by
    rw [brackets_append, brackets_of_all named rfl rfl, brackets_other (by decide), bare]
    rfl
  have written := bracketed_wrap.mpr (level_of_bare inside)
  rwa [List.append_assoc, List.cons_append] at written

/-- Between two brackets of its own, a text may close one of them as long as it opens one for it later. -/
theorem bracketed_inFull {filter : Filter} (shows : filter.arguments.flatMap brackets = brackets filter.shown) :
    Bracketed ('(' :: (filter.display ++ [')'])) ↔ Level 1 filter.shown := by
  have bare : brackets filter.label.toList = [] := brackets_of_all filter.label_letters rfl rfl
  have same : brackets filter.display = brackets ('(' :: (filter.shown ++ [')'])) := by
    rw [display_eq, brackets_call bare, shows, brackets_opening, brackets_append]
    rfl
  rw [bracketed_wrap, level_congr same, level_wrap]

theorem shows_pair {attr value : String} (named : ∀ c ∈ attr.toList, Grammar.isNameChar c = true) :
    [quoted attr, quoted value].flatMap brackets = brackets value.toList := by
  simp [brackets_quoted, brackets_of_all named rfl rfl]

theorem shows_rule (rule : RuleMatch) :
    (extensible rule).arguments.flatMap brackets = brackets (extensible rule).shown := by
  rw [arguments, List.flatMap_singleton, rule.brackets_display, shown]

theorem bracketed_signed {sign : Char} {s : List Char} (bare : sign ≠ '(' ∧ sign ≠ ')') (inside : Level 0 s) :
    Bracketed ('(' :: sign :: (s ++ [')'])) :=
  bracketed_wrap.mpr ((level_congr (brackets_other bare)).mpr inside)

theorem level_charsOfAll {filters : List Filter} (each : ∀ filter ∈ filters, Bracketed filter.chars) :
    Level 0 (charsOfAll filters) := by
  induction filters with
  | nil => exact level_of_bare rfl
  | cons filter filters ih =>
      obtain ⟨first, each⟩ := List.forall_mem_cons.mp each
      exact first.level.append (ih each)

theorem level_shown {filter : Filter} (named : ∀ c ∈ filter.name, Grammar.isNameChar c = true)
    (bracketed : Bracketed filter.chars) : Level 1 filter.shown := by
  cases filter with
  | greaterOrEqual attr value | lessOrEqual attr value | approx attr value =>
      rw [chars] at bracketed
      apply (bracketed_inFull ?_).mp bracketed
      exact shows_pair named
  | extensible rule =>
      rw [chars] at bracketed
      exact (bracketed_inFull (shows_rule rule)).mp bracketed
  | _ => exact ⟨by simp [shown], rfl⟩

theorem bracketed_parts {filter : Filter} (named : filter.Named)
    (level : ∀ part ∈ filter.parts, Level 1 part.shown) : ∀ part ∈ filter.parts, Bracketed part.chars := by
  induction filter with
  | all filters ih | any filters ih =>
      simp only [Named, parts, partsOfAll_eq, List.forall_mem_cons, List.forall_mem_flatMap] at named level ⊢
      have each (filter : Filter) (among : filter ∈ filters) := ih filter among (named.2 filter among)
        (level.2 filter among)
      have inside := level_charsOfAll fun filter among => each filter among filter filter.self_mem_parts
      exact ⟨bracketed_signed (by decide) inside, each⟩
  | not filter ih =>
      simp only [Named, parts, List.forall_mem_cons] at named level ⊢
      have each := ih named.2 level.2
      exact ⟨bracketed_signed (by decide) (each filter filter.self_mem_parts).level, each⟩
  | equal attr value =>
      simp only [Named, parts, List.forall_mem_singleton] at named level ⊢
      exact bracketed_item named (brackets_escapeValue value)
  | substring attr pattern =>
      simp only [Named, parts, List.forall_mem_singleton] at named level ⊢
      exact bracketed_item named (brackets_pattern pattern)
  | present attr =>
      simp only [Named, parts, List.forall_mem_singleton] at named level ⊢
      exact bracketed_item named rfl
  | greaterOrEqual attr value | lessOrEqual attr value | approx attr value =>
      simp only [Named, parts, List.forall_mem_singleton] at named level ⊢
      rw [chars]
      apply (bracketed_inFull ?_).mpr level
      exact shows_pair named
  | extensible rule =>
      simp only [Named, parts, List.forall_mem_singleton] at named level ⊢
      rw [chars]
      exact (bracketed_inFull (shows_rule rule)).mpr level

end Filter

/-- The string of a filter and those of the filters inside it are one bracketed expression each, exactly where the
texts that stand in full close at no place more than the one bracket that is theirs. -/
theorem texts_bracketed_iff (filter : Filter) (named : filter.Named) :
    (∀ part ∈ filter.parts, Bracketed part.text.toList) ↔ ∀ part ∈ filter.parts, Level 1 part.shown := by
  have text (part : Filter) : part.text.toList = part.chars := String.toList_ofList
  simp only [text]
  constructor
  · intro bracketed part among
    exact Filter.level_shown (named part among) (bracketed part among)
  · exact Filter.bracketed_parts named

theorem texts_bracketed_of_level_values :
    let filter : Filter := .any [.greaterOrEqual "uidNumber" "(1000)", .not (.substring "cn" ⟨none, [")"], some "("⟩),
      .extensible ⟨some "2.5.13.2", some "ou;lang-de", ":)(", false⟩]
    filter.Named ∧ (∀ part ∈ filter.parts, Level 1 part.shown) ∧
      ∀ part ∈ filter.parts, Bracketed part.text.toList := by
  intro filter
  have named : filter.Named := by decide
  have level : ∀ part ∈ filter.parts, Level 1 part.shown := by decide
  exact ⟨named, level, (texts_bracketed_iff filter named).mpr level⟩

/-- The value of an ordering closes the bracket of the conjunction around it, and the rest stands outside. -/
theorem text_not_bracketed_of_closing_value :
    let filter : Filter := .all [.greaterOrEqual "a" ")", .present "b"]
    filter.Named ∧ filter.text = "(&(GreaterOrEqual(\"a\", \")\"))" ++ "(b=*))" ∧
      depth "(&(GreaterOrEqual(\"a\", \")\"))".toList = 0 ∧ ¬ Bracketed filter.text.toList := by
  decide

end LdapDecoy.Ldap
