import LdapDecoy.Proofs.Ldap.Filter.Parts
import LdapDecoy.Proofs.Text.Quoted
import LdapDecoy.Responder.Transcript

/-!
# Filters in full lose nothing

What is shown of a filter in full ends by itself: no other filter begins with the same characters, whatever quotes,
brackets and escapes there are in its texts. No character of it is a control, so that it stays on its line.
-/
namespace LdapDecoy.Ldap
open Text.Quoted (encode isControl isControl_of_mem_encode)

namespace Display

variable {α : Type}

/-! ## Where a shown value ends -/

/-- Whether what is shown of a value is the beginning of nothing else that is shown so. -/
def Delimits (shown : α → List Char) (a : α) : Prop :=
  ∀ b x y, shown a ++ x = shown b ++ y → a = b ∧ x = y

theorem quoted_eq (s : String) : quoted s = '"' :: (encode s.toList ++ ['"']) := String.toList_ofList

theorem delimits_quoted (s : String) : Delimits quoted s := by
  intro t x y same
  rw [quoted_eq, quoted_eq] at same
  simp only [List.cons_append, List.append_assoc, List.nil_append, List.cons.injEq, true_and] at same
  obtain ⟨texts, rest⟩ := Text.Quoted.encode_unique same
  exact ⟨String.toList_injective texts, rest⟩

theorem delimits_option (part : Option String) : Delimits option part := by
  intro other x y same
  cases part with
  | none =>
      cases other with
      | none => exact ⟨rfl, List.append_cancel_left same⟩
      | some t => simp [option, call] at same
  | some s =>
      cases other with
      | none => simp [option, call] at same
      | some t =>
          simp only [option, call, List.intercalate_singleton, List.append_assoc, List.cons_append] at same
          obtain ⟨rfl, rest⟩ := delimits_quoted s t _ _ (List.cons.inj (List.append_cancel_left same)).2
          exact ⟨rfl, (List.cons.inj rest).2⟩

theorem delimits_bool (flag : Bool) : Delimits bool flag := by
  intro other x y same
  cases flag <;> cases other <;> simp_all [bool]

theorem intercalate_cons {separator : List Char} (first : List Char) (more : List (List Char)) :
    List.intercalate separator (first :: more) = first ++ more.flatMap (separator ++ ·) := by
  induction more generalizing first with
  | nil => simp
  | cons second more ih =>
      rw [List.intercalate_cons_cons, ih, List.flatMap_cons]
      simp only [List.append_assoc]

/-- Items behind a first one are told apart by their commas. -/
theorem behind_unique {shown : α → List Char} {items others : List α} {x y : List Char}
    (each : ∀ a ∈ items, Delimits shown a)
    (same : items.flatMap (fun a => separator ++ shown a) ++ ']' :: x =
      others.flatMap (fun a => separator ++ shown a) ++ ']' :: y) : items = others ∧ x = y := by
  induction items generalizing others with
  | nil =>
      cases others with
      | nil => simpa using same
      | cons b others => simp [separator] at same
  | cons a items ih =>
      cases others with
      | nil => simp [separator] at same
      | cons b others =>
          obtain ⟨delimits, each⟩ := List.forall_mem_cons.mp each
          rw [List.flatMap_cons, List.flatMap_cons] at same
          simp only [List.append_assoc] at same
          obtain ⟨rfl, further⟩ := delimits b _ _ (List.append_cancel_left same)
          obtain ⟨rfl, rest⟩ := ih each further
          exact ⟨rfl, rest⟩

theorem delimits_list {shown : α → List Char} {items : List α} (each : ∀ a ∈ items, Delimits shown a)
    (solid : ∀ a x y, shown a ++ x ≠ ']' :: y) : Delimits (fun items => list (items.map shown)) items := by
  intro others x y same
  cases items with
  | nil =>
      cases others with
      | nil => simpa [list] using same
      | cons b others =>
          simp only [list, List.map_cons, intercalate_cons, List.cons_append, List.append_assoc] at same
          exact absurd (List.cons.inj same).2.symm (solid b _ _)
  | cons a items =>
      cases others with
      | nil =>
          simp only [list, List.map_cons, intercalate_cons, List.cons_append, List.append_assoc] at same
          exact absurd (List.cons.inj same).2 (solid a _ _)
      | cons b others =>
          obtain ⟨delimits, each⟩ := List.forall_mem_cons.mp each
          simp only [list, List.map_cons, intercalate_cons, List.cons_append, List.append_assoc, List.flatMap_map,
            List.nil_append] at same
          obtain ⟨rfl, further⟩ := delimits b _ _ (List.cons.inj same).2
          obtain ⟨rfl, rest⟩ := behind_unique each further
          exact ⟨rfl, rest⟩

/-- Calls of names without brackets are told apart by their names. -/
theorem call_unique {name other : String} {arguments arguments' : List (List Char)} {x y : List Char}
    (plain : ∀ c ∈ name.toList, (c != '(') = true) (plain' : ∀ c ∈ other.toList, (c != '(') = true)
    (same : call name arguments ++ x = call other arguments' ++ y) :
    name = other ∧
      List.intercalate separator arguments ++ ')' :: x = List.intercalate separator arguments' ++ ')' :: y := by
  simp only [call, List.append_assoc, List.cons_append, List.nil_append] at same
  obtain ⟨names, _, further⟩ := Text.span_unique plain plain' rfl rfl same
  exact ⟨String.toList_injective names, further⟩

end Display

open Display

/-! ## Records -/

theorem Substrings.display_eq (parts : Substrings) :
    parts.display = "LdapSubstringFilter \x7b initial: ".toList ++ (option parts.initial ++
      (", any: ".toList ++ (list (parts.middle.map quoted) ++ (", final_: ".toList ++ (option parts.final ++
        " \x7d".toList))))) := by
  simp [Substrings.display, record, List.intercalate, separator]

theorem RuleMatch.display_eq (rule : RuleMatch) :
    rule.display = "LdapMatchingRuleAssertion \x7b matching_rule: ".toList ++ (option rule.rule ++
      (", type_: ".toList ++ (option rule.attr ++ (", match_value: ".toList ++ (quoted rule.value ++
        (", dn_attributes: ".toList ++ (bool rule.dnAttributes ++ " \x7d".toList))))))) := by
  simp [RuleMatch.display, record, List.intercalate, separator]

theorem Substrings.delimits_display (parts : Substrings) : Delimits Substrings.display parts := by
  intro others x y same
  have texts : ∀ s ∈ parts.middle, Delimits quoted s := fun s _ => delimits_quoted s
  have solid (s : String) (x y : List Char) : quoted s ++ x ≠ ']' :: y := by simp [quoted_eq]
  rw [display_eq, display_eq] at same
  simp only [List.append_assoc] at same
  obtain ⟨initial, further⟩ := delimits_option _ _ _ _ (List.append_cancel_left same)
  obtain ⟨middle, further⟩ := delimits_list texts solid _ _ _ (List.append_cancel_left further)
  obtain ⟨final, rest⟩ := delimits_option _ _ _ _ (List.append_cancel_left further)
  obtain ⟨_, _, _⟩ := parts
  obtain ⟨_, _, _⟩ := others
  cases initial
  cases middle
  cases final
  exact ⟨rfl, List.append_cancel_left rest⟩

theorem RuleMatch.delimits_display (rule : RuleMatch) : Delimits RuleMatch.display rule := by
  intro other x y same
  rw [display_eq, display_eq] at same
  simp only [List.append_assoc] at same
  obtain ⟨byRule, further⟩ := delimits_option _ _ _ _ (List.append_cancel_left same)
  obtain ⟨attr, further⟩ := delimits_option _ _ _ _ (List.append_cancel_left further)
  obtain ⟨value, further⟩ := delimits_quoted _ _ _ _ (List.append_cancel_left further)
  obtain ⟨flag, rest⟩ := delimits_bool _ _ _ _ (List.append_cancel_left further)
  obtain ⟨_, _, _, _⟩ := rule
  obtain ⟨_, _, _, _⟩ := other
  cases byRule
  cases attr
  cases value
  cases flag
  exact ⟨rfl, List.append_cancel_left rest⟩

/-! ## Filters -/

namespace Filter

/-- The name of a filter's kind. -/
def label : Filter → String
  | .all _ => "And"
  | .any _ => "Or"
  | .not _ => "Not"
  | .equal _ _ => "Equality"
  | .substring _ _ => "Substring"
  | .greaterOrEqual _ _ => "GreaterOrEqual"
  | .lessOrEqual _ _ => "LessOrEqual"
  | .present _ => "Present"
  | .approx _ _ => "Approx"
  | .extensible _ => "Extensible"

/-- What is shown of a filter behind its name. -/
def arguments : Filter → List (List Char)
  | .all filters => [list (filters.map display)]
  | .any filters => [list (filters.map display)]
  | .not filter => [filter.display]
  | .equal attr value => [quoted attr, quoted value]
  | .substring attr parts => [quoted attr, parts.display]
  | .greaterOrEqual attr value => [quoted attr, quoted value]
  | .lessOrEqual attr value => [quoted attr, quoted value]
  | .present attr => [quoted attr]
  | .approx attr value => [quoted attr, quoted value]
  | .extensible rule => [rule.display]

theorem display_eq (filter : Filter) : filter.display = call filter.label filter.arguments := by
  cases filter <;> simp only [display, label, arguments, displays_eq]

theorem label_letters (filter : Filter) : ∀ c ∈ filter.label.toList, c.isAlpha = true := by
  apply List.all_eq_true.mp
  cases filter <;> simp only [label] <;> decide

theorem display_solid (filter : Filter) (x y : List Char) : filter.display ++ x ≠ ']' :: y := by
  cases filter <;> simp [display_eq, call, label]

theorem display_unique {filter other : Filter} {x y : List Char}
    (same : filter.display ++ x = other.display ++ y) :
    filter.label = other.label ∧
      List.intercalate separator filter.arguments ++ ')' :: x =
        List.intercalate separator other.arguments ++ ')' :: y := by
  have plain (filter : Filter) : ∀ c ∈ filter.label.toList, (c != '(') = true := by
    intro c among
    apply bne_iff_ne.mpr
    rintro rfl
    exact absurd (filter.label_letters _ among) (by decide)
  rw [display_eq, display_eq] at same
  exact call_unique (plain filter) (plain other) same

/-- Two texts, one behind the other. -/
theorem pair_unique {attr value attr' value' : String} {x y : List Char}
    (same : List.intercalate separator [quoted attr, quoted value] ++ ')' :: x =
      List.intercalate separator [quoted attr', quoted value'] ++ ')' :: y) :
    attr = attr' ∧ value = value' ∧ x = y := by
  simp only [intercalate_cons, List.flatMap_cons, List.flatMap_nil, List.append_nil, List.append_assoc] at same
  obtain ⟨attrs, further⟩ := delimits_quoted _ _ _ _ same
  obtain ⟨values, rest⟩ := delimits_quoted _ _ _ _ (List.append_cancel_left further)
  exact ⟨attrs, values, (List.cons.inj rest).2⟩

/-- What is shown of a filter is the beginning of nothing that is shown of another one. -/
theorem delimits_display (filter : Filter) : Delimits display filter := by
  -- the label leaves a filter of the same kind alone, and its arguments are told apart one by one
  induction filter with
  | all filters ih | any filters ih =>
      intro other x y same
      obtain ⟨labels, inside⟩ := display_unique same
      cases other <;> try (simp [label] at labels; done)
      simp only [arguments, List.intercalate_singleton] at inside
      obtain ⟨rfl, rest⟩ := delimits_list ih display_solid _ _ _ inside
      exact ⟨rfl, (List.cons.inj rest).2⟩
  | not filter ih =>
      intro other x y same
      obtain ⟨labels, inside⟩ := display_unique same
      cases other <;> try (simp [label] at labels; done)
      simp only [arguments, List.intercalate_singleton] at inside
      obtain ⟨rfl, rest⟩ := ih _ _ _ inside
      exact ⟨rfl, (List.cons.inj rest).2⟩
  | equal attr value | greaterOrEqual attr value | lessOrEqual attr value | approx attr value =>
      intro other x y same
      obtain ⟨labels, inside⟩ := display_unique same
      cases other <;> try (simp [label] at labels; done)
      obtain ⟨rfl, rfl, rest⟩ := pair_unique inside
      exact ⟨rfl, rest⟩
  | substring attr parts =>
      intro other x y same
      obtain ⟨labels, inside⟩ := display_unique same
      cases other <;> try (simp [label] at labels; done)
      simp only [arguments, intercalate_cons, List.flatMap_cons, List.flatMap_nil, List.append_nil,
        List.append_assoc] at inside
      obtain ⟨rfl, further⟩ := delimits_quoted _ _ _ _ inside
      obtain ⟨rfl, rest⟩ := parts.delimits_display _ _ _ (List.append_cancel_left further)
      exact ⟨rfl, (List.cons.inj rest).2⟩
  | present attr =>
      intro other x y same
      obtain ⟨labels, inside⟩ := display_unique same
      cases other <;> try (simp [label] at labels; done)
      simp only [arguments, List.intercalate_singleton] at inside
      obtain ⟨rfl, rest⟩ := delimits_quoted _ _ _ _ inside
      exact ⟨rfl, (List.cons.inj rest).2⟩
  | extensible rule =>
      intro other x y same
      obtain ⟨labels, inside⟩ := display_unique same
      cases other <;> try (simp [label] at labels; done)
      simp only [arguments, List.intercalate_singleton] at inside
      obtain ⟨rfl, rest⟩ := rule.delimits_display _ _ _ inside
      exact ⟨rfl, (List.cons.inj rest).2⟩

end Filter

/-! ## Controls -/

namespace Display

/-- Whether a text stays on its line: no character of it is a control. -/
def Clean (s : List Char) : Prop := ∀ c ∈ s, isControl c = false

instance (s : List Char) : Decidable (Clean s) := List.decidableBAll (isControl · = false) s

@[simp] theorem clean_append {s t : List Char} : Clean (s ++ t) ↔ Clean s ∧ Clean t := List.forall_mem_append

@[simp] theorem clean_cons {c : Char} {s : List Char} : Clean (c :: s) ↔ isControl c = false ∧ Clean s :=
  List.forall_mem_cons

theorem clean_quoted (s : String) : Clean (quoted s) := by
  have inside : Clean (encode s.toList) := fun _ => isControl_of_mem_encode
  rw [quoted_eq, clean_cons, clean_append]
  exact ⟨by decide, inside, by decide⟩

theorem clean_intercalate {items : List (List Char)} (each : ∀ s ∈ items, Clean s) :
    Clean (List.intercalate separator items) := by
  cases items with
  | nil => exact List.forall_mem_nil _
  | cons first more =>
      obtain ⟨clean, each⟩ := List.forall_mem_cons.mp each
      rw [intercalate_cons, clean_append]
      refine ⟨clean, ?_⟩
      intro c among
      obtain ⟨s, inMore, among⟩ := List.mem_flatMap.mp among
      rcases List.mem_append.mp among with among | among
      · exact (show Clean separator by decide) c among
      · exact each s inMore c among

theorem clean_list {items : List (List Char)} (each : ∀ s ∈ items, Clean s) : Clean (list items) := by
  rw [list, clean_cons, clean_append]
  exact ⟨by decide, clean_intercalate each, by decide⟩

theorem clean_call {name : String} {arguments : List (List Char)} (named : Clean name.toList)
    (each : ∀ s ∈ arguments, Clean s) : Clean (call name arguments) := by
  rw [call, clean_append, clean_cons, clean_append]
  exact ⟨named, by decide, clean_intercalate each, by decide⟩

theorem clean_option (part : Option String) : Clean (option part) := by
  cases part with
  | none => decide
  | some s => exact clean_call (by decide) (List.forall_mem_singleton.mpr (clean_quoted s))

theorem clean_bool (flag : Bool) : Clean (bool flag) := by cases flag <;> decide

end Display

theorem Substrings.clean_display (parts : Substrings) : Clean parts.display := by
  have texts : ∀ s ∈ parts.middle.map quoted, Clean s := by
    intro s among
    obtain ⟨text, _, rfl⟩ := List.mem_map.mp among
    exact clean_quoted text
  simp only [display_eq, clean_append]
  exact ⟨by decide, clean_option _, by decide, clean_list texts, by decide, clean_option _, by decide⟩

theorem RuleMatch.clean_display (rule : RuleMatch) : Clean rule.display := by
  simp only [display_eq, clean_append]
  exact ⟨by decide, clean_option _, by decide, clean_option _, by decide, clean_quoted _, by decide, clean_bool _,
    by decide⟩

theorem Filter.clean_display (filter : Filter) : Clean filter.display := by
  have named (filter : Filter) : Clean filter.label.toList := by
    cases filter <;> simp only [label] <;> decide
  have listed {filters : List Filter} (ih : ∀ filter ∈ filters, Clean filter.display) :
      ∀ s ∈ [list (filters.map display)], Clean s :=
    List.forall_mem_singleton.mpr (clean_list (by simpa using ih))
  induction filter with
  | all filters ih | any filters ih =>
      rw [display_eq]
      exact clean_call (named _) (listed ih)
  | not filter ih =>
      rw [display_eq]
      exact clean_call (named _) (List.forall_mem_singleton.mpr ih)
  | equal attr value | greaterOrEqual attr value | lessOrEqual attr value | approx attr value =>
      rw [display_eq]
      exact clean_call (named _) (by simp [arguments, clean_quoted])
  | substring attr parts =>
      rw [display_eq]
      exact clean_call (named _) (by simp [arguments, clean_quoted, parts.clean_display])
  | present attr =>
      rw [display_eq]
      exact clean_call (named _) (by simp [arguments, clean_quoted])
  | extensible rule =>
      rw [display_eq]
      exact clean_call (named _) (by simp [arguments, rule.clean_display])

/-! ## The line of a transcript -/

open Responder

theorem Filter.line_eq (filter : Filter) :
    (Transcript.line "Filter" filter.inFull).toList = "Filter=".toList ++ (filter.display ++ ['\n']) := by
  simp [Transcript.line, inFull]

/-- Behind the base of a search stands a line with its filter in full: it has no newline but the one at its end and no
other control, and no other filter has this line, whatever stands behind it. -/
theorem filter_line_unique (request : Search) :
    (∃ back, Transcript.search request =
        Transcript.line "Type" "Search" ++ Transcript.line "BaseDn" request.base ++
          Transcript.line "Filter" request.filter.inFull ++ back) ∧
      (∀ c ∈ request.filter.inFull.toList, isControl c = false) ∧
      (Transcript.line "Filter" request.filter.inFull).toList.count '\n' = 1 ∧
      ∀ (other : Search) (back back' : String),
        Transcript.line "Filter" request.filter.inFull ++ back =
            Transcript.line "Filter" other.filter.inFull ++ back' ↔
          request.filter = other.filter ∧ back = back' := by
  have shown : request.filter.inFull.toList = request.filter.display := String.toList_ofList
  have clean : Display.Clean request.filter.display := request.filter.clean_display
  refine ⟨?_, ?_, ?_, ?_⟩
  · refine ⟨Transcript.line "FilterString" request.filter.text ++
      Transcript.line "Attributes" ("[" ++ String.intercalate " " request.attributes ++ "]") ++
      Transcript.line "TimeLimit" (toString request.timeLimit), ?_⟩
    simp only [Transcript.search, String.append_assoc]
  · rw [shown]
    exact clean
  · have none : request.filter.display.count '\n' = 0 := by
      apply List.count_eq_zero.mpr
      intro among
      exact absurd (clean _ among) (by decide)
    rw [Filter.line_eq, List.count_append, List.count_append, none]
    decide
  · intro other back back'
    constructor
    · intro same
      have chars := congrArg String.toList same
      simp only [String.toList_append, Filter.line_eq, List.append_assoc] at chars
      obtain ⟨filters, rest⟩ := request.filter.delimits_display _ _ _ (List.append_cancel_left chars)
      exact ⟨filters, String.toList_injective (List.append_cancel_left rest)⟩
    · rintro ⟨filters, rfl⟩
      rw [filters]

end LdapDecoy.Ldap
