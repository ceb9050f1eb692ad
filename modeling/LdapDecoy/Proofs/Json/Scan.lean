import LdapDecoy.Proofs.Json.Grammar

/-!
# Scans over numbers and strings

What a scan accepts from a place within a number, a string or a literal name on: the rest of one, by the rules, and
behind it what is accepted behind a value.
-/
namespace LdapDecoy.Json

namespace Place

/-- Whether a scan that goes on from a place comes to the end of a text without a fault. -/
def Accepts (place : Place) (s : Bytes) : Prop := place.run s = .ok ()

theorem accepts_cons_iff {place : Place} {b : UInt8} {s : Bytes} :
    place.Accepts (b :: s) ↔ ∃ next, place.step b = .ok next ∧ next.Accepts s := by
  unfold Accepts
  rw [run]
  cases place.step b with
  | error fault => exact ⟨(nomatch ·), fun ⟨_, steps, _⟩ => nomatch steps⟩
  | ok next =>
      refine ⟨fun accepts => ⟨next, rfl, accepts⟩, ?_⟩
      rintro ⟨_, steps, accepts⟩
      cases steps
      exact accepts

theorem accepts_cons {place next : Place} {b : UInt8} (steps : place.step b = .ok next) {s : Bytes} :
    place.Accepts (b :: s) ↔ next.Accepts s := by
  rw [accepts_cons_iff, steps]
  exact ⟨fun ⟨_, same, accepts⟩ => by cases same; exact accepts, fun accepts => ⟨next, rfl, accepts⟩⟩

/-- A place accepts what another one does where it treats the next octet like that one. -/
theorem accepts_of_same {place other : Place} {s : Bytes} (finish : place.finish = other.finish)
    (step : ∀ b more, s = b :: more → place.step b = other.step b) : place.Accepts s ↔ other.Accepts s := by
  cases s with
  | nil => rw [Accepts, Accepts, run, run, finish]
  | cons b s => rw [accepts_cons_iff, accepts_cons_iff, step b s rfl]

/-- Octets on which a place stays where it is make no difference. -/
theorem accepts_append {place : Place} {stays : UInt8 → Bool}
    (steps : ∀ b, stays b = true → place.step b = .ok place) {front : Bytes}
    (all : ∀ b ∈ front, stays b = true) (s : Bytes) : place.Accepts (front ++ s) ↔ place.Accepts s := by
  induction front with
  | nil => exact Iff.rfl
  | cons b front ih =>
      exact (accepts_cons (steps b (all b (.head _)))).trans (ih fun c among => all c (.tail _ among))

end Place

/-- What stands in front of the first element that is not of a kind. -/
theorem exists_span {α : Type} (kind : α → Bool) (s : List α) :
    ∃ front rest, s = front ++ rest ∧ (∀ b ∈ front, kind b = true) ∧
      ∀ b more, rest = b :: more → kind b = false := by
  refine ⟨s.takeWhile kind, s.dropWhile kind, List.takeWhile_append_dropWhile.symm, ?_, ?_⟩
  · exact List.all_eq_true.mp List.all_takeWhile
  · intro b more same
    have head := List.head?_dropWhile_not kind s
    rw [same] at head
    simpa using head

/-- Nothing is dropped where the first element is not of the kind. -/
theorem dropWhile_of_head? {α : Type} {kind : α → Bool} {s : List α}
    (starts : ∀ a, s.head? = some a → kind a = false) : s.dropWhile kind = s := by
  cases s with
  | nil => rfl
  | cons a s => exact List.dropWhile_cons_of_neg (Bool.eq_false_iff.mp (starts a rfl))

/-- An octet with which a text goes on behind a value does not go on with a number. -/
theorem ends_of_stepClosed {b : UInt8} {frames : List Frame} {next : Place}
    (steps : stepClosed b frames = .ok next) :
    isDigit b = false ∧ b ≠ 0x2E ∧ ¬ (b = 0x65 || b = 0x45) = true := by
  have ends : isBlank b = true ∨ b = 0x2C ∨ b = 0x5D ∨ b = 0x7D := by
    rcases frames with _ | ⟨_ | _, frames⟩ <;> unfold stepClosed at steps <;> grind
  rcases ends with blank | rfl | rfl | rfl
  · simp only [isBlank, Bool.or_eq_true, decide_eq_true_eq] at blank
    rcases blank with ((rfl | rfl) | rfl) | rfl <;> decide
  · decide
  · decide
  · decide

/-! ## Numbers -/

section
variable {frames : List Frame} {s : Bytes}

/-- Further digits leave a number in the part that it is in. -/
theorem digit_stays {part : NumberPart} (runs : part = .digits ∨ part = .fraction ∨ part = .exponent) (b : UInt8)
    (digit : isDigit b = true) : (⟨.number part, frames⟩ : Place).step b = .ok ⟨.number part, frames⟩ := by
  rcases runs with rfl | rfl | rfl <;> exact if_pos digit

theorem ne_of_digit {b c : UInt8} (digit : isDigit b = true) (other : isDigit c = false) : b ≠ c := by
  rintro rfl
  cases digit.symm.trans other

theorem of_accepts_exponent (accepts : (⟨.number .exponent, frames⟩ : Place).Accepts s) :
    ∃ more rest, s = more ++ rest ∧ AreDigits more ∧ (⟨.closed, frames⟩ : Place).Accepts rest := by
  obtain ⟨more, rest, rfl, digits, stops⟩ := exists_span isDigit s
  rw [Place.accepts_append (digit_stays (.inr (.inr rfl))) digits] at accepts
  refine ⟨more, rest, rfl, digits, (Place.accepts_of_same ?_ ?_).mp accepts⟩
  · rfl
  intro b tail same
  exact if_neg (Bool.eq_false_iff.mp (stops b tail same))

theorem of_accepts_sign (accepts : (⟨.number .sign, frames⟩ : Place).Accepts s) :
    ∃ first more rest, s = first :: (more ++ rest) ∧ isDigit first = true ∧ AreDigits more ∧
      (⟨.closed, frames⟩ : Place).Accepts rest := by
  cases s with
  | nil => cases accepts
  | cons b s =>
      obtain ⟨next, steps, accepts⟩ := Place.accepts_cons_iff.mp accepts
      simp only [Place.step, stepNumber] at steps
      split at steps <;> cases steps
      rename_i digit
      obtain ⟨more, rest, rfl, digits, closed⟩ := of_accepts_exponent accepts
      exact ⟨b, more, rest, rfl, digit, digits, closed⟩

theorem of_accepts_mark (accepts : (⟨.number .mark, frames⟩ : Place).Accepts s) :
    ∃ sign first more rest, s = sign ++ first :: (more ++ rest) ∧
      (sign = [] ∨ sign = [0x2B] ∨ sign = [0x2D]) ∧ isDigit first = true ∧ AreDigits more ∧
      (⟨.closed, frames⟩ : Place).Accepts rest := by
  cases s with
  | nil => cases accepts
  | cons b s =>
      obtain ⟨next, steps, accepts⟩ := Place.accepts_cons_iff.mp accepts
      simp only [Place.step, stepNumber] at steps
      split at steps
      · rename_i isSign
        cases steps
        obtain ⟨first, more, rest, rfl, digit, digits, closed⟩ := of_accepts_sign accepts
        simp only [Bool.or_eq_true, decide_eq_true_eq] at isSign
        refine ⟨[b], first, more, rest, rfl, .inr ?_, digit, digits, closed⟩
        simpa using isSign
      · split at steps <;> cases steps
        rename_i digit
        obtain ⟨more, rest, rfl, digits, closed⟩ := of_accepts_exponent accepts
        exact ⟨[], b, more, rest, rfl, .inl rfl, digit, digits, closed⟩

/-- Behind the digits of a number that may end there. -/
theorem of_accepts_tail {part : NumberPart} (mayEnd : part = .zero ∨ part = .digits ∨ part = .fraction)
    (accepts : (⟨.number part, frames⟩ : Place).Accepts s)
    (ends : ∀ b more, s = b :: more → ¬ (b = 0x65 || b = 0x45) = true →
      stepNumber b frames part = stepClosed b frames) :
    ∃ exponent rest, s = exponent ++ rest ∧ IsExponent exponent ∧ (⟨.closed, frames⟩ : Place).Accepts rest := by
  by_cases marked : ∃ b more, s = b :: more ∧ (b = 0x65 || b = 0x45) = true
  · obtain ⟨b, s, rfl, isMark⟩ := marked
    simp only [Bool.or_eq_true, decide_eq_true_eq] at isMark
    have steps : (⟨.number part, frames⟩ : Place).step b = .ok ⟨.number .mark, frames⟩ := by
      rcases mayEnd with rfl | rfl | rfl <;> rcases isMark with rfl | rfl <;> rfl
    obtain ⟨sign, first, more, rest, rfl, isSign, digit, digits, closed⟩ :=
      of_accepts_mark ((Place.accepts_cons steps).mp accepts)
    exact ⟨b :: (sign ++ first :: more), rest, by simp, .some isMark isSign digit digits, closed⟩
  · refine ⟨[], s, rfl, .none, (Place.accepts_of_same ?_ ?_).mp accepts⟩
    · rcases mayEnd with rfl | rfl | rfl <;> rfl
    · intro b more same
      exact ends b more same fun isMark => marked ⟨b, more, same, isMark⟩

theorem of_accepts_fraction (accepts : (⟨.number .fraction, frames⟩ : Place).Accepts s) :
    ∃ more exponent rest, s = more ++ (exponent ++ rest) ∧ AreDigits more ∧ IsExponent exponent ∧
      (⟨.closed, frames⟩ : Place).Accepts rest := by
  obtain ⟨more, rest, rfl, digits, stops⟩ := exists_span isDigit s
  rw [Place.accepts_append (digit_stays (.inr (.inl rfl))) digits] at accepts
  have ends (b : UInt8) (tail : Bytes) (same : rest = b :: tail) (unmarked : ¬ (b = 0x65 || b = 0x45) = true) :
      stepNumber b frames .fraction = stepClosed b frames :=
    (if_neg (Bool.eq_false_iff.mp (stops b tail same))).trans (if_neg unmarked)
  obtain ⟨exponent, rest, rfl, isExponent, closed⟩ := of_accepts_tail (.inr (.inr rfl)) accepts ends
  exact ⟨more, exponent, rest, rfl, digits, isExponent, closed⟩

/-- Behind the whole part of a number. -/
theorem of_accepts_whole {part : NumberPart} (isWhole : part = .zero ∨ part = .digits)
    (accepts : (⟨.number part, frames⟩ : Place).Accepts s)
    (stops : ∀ b more, s = b :: more → isDigit b = false) :
    ∃ fraction exponent rest, s = fraction ++ (exponent ++ rest) ∧ IsFraction fraction ∧ IsExponent exponent ∧
      (⟨.closed, frames⟩ : Place).Accepts rest := by
  by_cases pointed : ∃ more, s = 0x2E :: more
  · obtain ⟨s, rfl⟩ := pointed
    have steps : (⟨.number part, frames⟩ : Place).step 0x2E = .ok ⟨.number .point, frames⟩ := by
      rcases isWhole with rfl | rfl <;> rfl
    replace accepts := (Place.accepts_cons steps).mp accepts
    cases s with
    | nil => cases accepts
    | cons first s =>
        obtain ⟨next, steps, accepts⟩ := Place.accepts_cons_iff.mp accepts
        simp only [Place.step, stepNumber] at steps
        split at steps <;> cases steps
        rename_i digit
        obtain ⟨more, exponent, rest, rfl, digits, isExponent, closed⟩ := of_accepts_fraction accepts
        exact ⟨0x2E :: first :: more, exponent, rest, rfl, .some digit digits, isExponent, closed⟩
  · have ends (b : UInt8) (more : Bytes) (same : s = b :: more) (unmarked : ¬ (b = 0x65 || b = 0x45) = true) :
        stepNumber b frames part = stepClosed b frames := by
      have notDigit := Bool.eq_false_iff.mp (stops b more same)
      have notPoint : ¬ b = 0x2E := fun point => pointed ⟨more, point ▸ same⟩
      rcases isWhole with rfl | rfl
      · exact (if_neg notDigit).trans ((if_neg notPoint).trans (if_neg unmarked))
      · exact (if_neg notDigit).trans ((if_neg notPoint).trans (if_neg unmarked))
    obtain ⟨exponent, rest, rfl, isExponent, closed⟩ :=
      of_accepts_tail (isWhole.imp_right .inl) accepts ends
    exact ⟨[], exponent, rest, rfl, .none, isExponent, closed⟩


theorem of_accepts_zero (accepts : (⟨.number .zero, frames⟩ : Place).Accepts s) :
    ∃ fraction exponent rest, s = fraction ++ (exponent ++ rest) ∧ IsFraction fraction ∧ IsExponent exponent ∧
      (⟨.closed, frames⟩ : Place).Accepts rest := by
  refine of_accepts_whole (.inl rfl) accepts ?_
  rintro b more rfl
  refine Bool.eq_false_iff.mpr fun digit => ?_
  obtain ⟨next, steps, _⟩ := Place.accepts_cons_iff.mp accepts
  cases (if_pos digit).symm.trans steps

theorem of_accepts_digits (accepts : (⟨.number .digits, frames⟩ : Place).Accepts s) :
    ∃ more fraction exponent rest, s = more ++ (fraction ++ (exponent ++ rest)) ∧ AreDigits more ∧
      IsFraction fraction ∧ IsExponent exponent ∧ (⟨.closed, frames⟩ : Place).Accepts rest := by
  obtain ⟨more, rest, rfl, digits, stops⟩ := exists_span isDigit s
  rw [Place.accepts_append (digit_stays (.inl rfl)) digits] at accepts
  obtain ⟨fraction, exponent, rest, rfl, isFraction, isExponent, closed⟩ :=
    of_accepts_whole (.inr rfl) accepts stops
  exact ⟨more, fraction, exponent, rest, rfl, digits, isFraction, isExponent, closed⟩

theorem of_accepts_minus (accepts : (⟨.number .minus, frames⟩ : Place).Accepts s) :
    ∃ whole fraction exponent rest, s = whole ++ (fraction ++ (exponent ++ rest)) ∧ IsWhole whole ∧
      IsFraction fraction ∧ IsExponent exponent ∧ (⟨.closed, frames⟩ : Place).Accepts rest := by
  cases s with
  | nil => cases accepts
  | cons b s =>
      obtain ⟨next, steps, accepts⟩ := Place.accepts_cons_iff.mp accepts
      simp only [Place.step, stepNumber] at steps
      split at steps
      · rename_i zero
        cases steps
        obtain ⟨fraction, exponent, rest, rfl, isFraction, isExponent, closed⟩ := of_accepts_zero accepts
        rw [zero]
        exact ⟨[0x30], fraction, exponent, rest, rfl, .zero, isFraction, isExponent, closed⟩
      · rename_i other
        split at steps <;> cases steps
        rename_i digit
        obtain ⟨more, fraction, exponent, rest, rfl, digits, isFraction, isExponent, closed⟩ :=
          of_accepts_digits accepts
        exact ⟨b :: more, fraction, exponent, rest, rfl, .digits other digit digits, isFraction, isExponent,
          closed⟩

/-! The other way round. -/

/-- Where a number may end, everything is accepted that is accepted behind a value. -/
theorem accepts_of_closed {part : NumberPart}
    (mayEnd : part = .zero ∨ part = .digits ∨ part = .fraction ∨ part = .exponent)
    (closed : (⟨.closed, frames⟩ : Place).Accepts s) : (⟨.number part, frames⟩ : Place).Accepts s := by
  have same : (⟨.number part, frames⟩ : Place).finish = (⟨.closed, frames⟩ : Place).finish := by
    rcases mayEnd with rfl | rfl | rfl | rfl <;> rfl
  refine (Place.accepts_of_same same ?_).mpr closed
  rintro b more rfl
  obtain ⟨next, steps, _⟩ := Place.accepts_cons_iff.mp closed
  obtain ⟨notDigit, notPoint, notMark⟩ := ends_of_stepClosed steps
  replace notDigit := Bool.eq_false_iff.mp notDigit
  rcases mayEnd with rfl | rfl | rfl | rfl
  · exact (if_neg notDigit).trans ((if_neg notPoint).trans (if_neg notMark))
  · exact (if_neg notDigit).trans ((if_neg notPoint).trans (if_neg notMark))
  · exact (if_neg notDigit).trans (if_neg notMark)
  · exact if_neg notDigit

theorem accepts_exponent {part : NumberPart} (mayEnd : part = .zero ∨ part = .digits ∨ part = .fraction)
    {exponent : Bytes} (isExponent : IsExponent exponent) (closed : (⟨.closed, frames⟩ : Place).Accepts s) :
    (⟨.number part, frames⟩ : Place).Accepts (exponent ++ s) := by
  cases isExponent with
  | none =>
      refine accepts_of_closed ?_ closed
      rcases mayEnd with rfl | rfl | rfl <;> simp
  | @some mark first sign more isMark isSign digit further =>
      have marked : (⟨.number part, frames⟩ : Place).step mark = .ok ⟨.number .mark, frames⟩ := by
        rcases mayEnd with rfl | rfl | rfl <;> rcases isMark with rfl | rfl <;> rfl
      have digits : (⟨.number .exponent, frames⟩ : Place).Accepts (more ++ s) :=
        (Place.accepts_append (digit_stays (.inr (.inr rfl))) further s).mpr (accepts_of_closed (by simp) closed)
      have isFirst : (⟨.number .sign, frames⟩ : Place).step first = .ok ⟨.number .exponent, frames⟩ := if_pos digit
      have signed := (Place.accepts_cons isFirst).mpr digits
      rw [List.cons_append, List.append_assoc, Place.accepts_cons marked]
      rcases isSign with rfl | rfl | rfl
      · have unsigned : ¬ (first = 0x2B || first = 0x2D) = true := by
          simp [ne_of_digit digit (show isDigit 0x2B = false from rfl),
            ne_of_digit digit (show isDigit 0x2D = false from rfl)]
        have isFirst : (⟨.number .mark, frames⟩ : Place).step first = .ok ⟨.number .exponent, frames⟩ :=
          (if_neg unsigned).trans (if_pos digit)
        exact (Place.accepts_cons isFirst).mpr digits
      · exact (Place.accepts_cons rfl).mpr signed
      · exact (Place.accepts_cons rfl).mpr signed

theorem accepts_fraction {part : NumberPart} (isWhole : part = .zero ∨ part = .digits)
    {fraction exponent : Bytes} (isFraction : IsFraction fraction) (isExponent : IsExponent exponent)
    (closed : (⟨.closed, frames⟩ : Place).Accepts s) :
    (⟨.number part, frames⟩ : Place).Accepts (fraction ++ (exponent ++ s)) := by
  rcases isFraction with _ | @⟨first, more, digit, further⟩
  · rw [List.nil_append]
    exact accepts_exponent (isWhole.imp_right .inl) isExponent closed
  · have pointed : (⟨.number part, frames⟩ : Place).step 0x2E = .ok ⟨.number .point, frames⟩ := by
      rcases isWhole with rfl | rfl <;> rfl
    have digits : (⟨.number .fraction, frames⟩ : Place).Accepts (more ++ (exponent ++ s)) :=
      (Place.accepts_append (digit_stays (.inr (.inl rfl))) further _).mpr
        (accepts_exponent (by simp) isExponent closed)
    have isFirst : (⟨.number .point, frames⟩ : Place).step first = .ok ⟨.number .fraction, frames⟩ := if_pos digit
    exact (Place.accepts_cons pointed).mpr ((Place.accepts_cons isFirst).mpr digits)

/-- A number from its whole part on, at a place where that can begin. -/
theorem accepts_whole {place : Place} (zero : place.step 0x30 = .ok ⟨.number .zero, frames⟩)
    (digits : ∀ b, b ≠ 0x30 → isDigit b = true → place.step b = .ok ⟨.number .digits, frames⟩)
    {whole fraction exponent : Bytes} (isWhole : IsWhole whole) (isFraction : IsFraction fraction)
    (isExponent : IsExponent exponent) (closed : (⟨.closed, frames⟩ : Place).Accepts s) :
    place.Accepts (whole ++ (fraction ++ (exponent ++ s))) := by
  rcases isWhole with _ | @⟨first, more, other, digit, further⟩
  · have behind := accepts_fraction (.inl rfl) isFraction isExponent closed
    exact (Place.accepts_cons zero).mpr behind
  · have behind := accepts_fraction (.inr rfl) isFraction isExponent closed
    exact (Place.accepts_cons (digits first other digit)).mpr
      ((Place.accepts_append (digit_stays (.inl rfl)) further _).mpr behind)

end

/-! ## Strings -/

section
variable {frames : List Frame} {isKey : Bool}

/-- The place behind a string. -/
def behindString (isKey : Bool) (frames : List Frame) : Place := ⟨if isKey then .colon else .closed, frames⟩

/-- Behind the letter of an escape by code stand four digits. -/
theorem accepts_code {s : Bytes} :
    (⟨.hex isKey 0 true, frames⟩ : Place).Accepts s ↔
      ∃ a b c d rest, s = a :: b :: c :: d :: rest ∧ (∀ digit ∈ [a, b, c, d], isHexDigit digit = true) ∧
        (⟨.text isKey, frames⟩ : Place).Accepts rest := by
  match s with
  | [] | [_] | [_, _] | [_, _, _] => simp [Place.Accepts, Place.run, Place.step, Place.finish]
  | a :: b :: c :: d :: rest =>
      have scanned : (⟨.hex isKey 0 true, frames⟩ : Place).Accepts (a :: b :: c :: d :: rest) ↔
          (⟨.hex isKey 3 (isHexDigit a && isHexDigit b && isHexDigit c), frames⟩ : Place).Accepts (d :: rest) :=
        Iff.rfl
      have last : (⟨.hex isKey 3 (isHexDigit a && isHexDigit b && isHexDigit c), frames⟩ : Place).step d =
          if (isHexDigit a && isHexDigit b && isHexDigit c && isHexDigit d) = true then .ok ⟨.text isKey, frames⟩
          else .error .badEscape := rfl
      rw [scanned]
      by_cases hex : (isHexDigit a && isHexDigit b && isHexDigit c && isHexDigit d) = true
      · rw [Place.accepts_cons (last.trans (if_pos hex))]
        simp only [Bool.and_eq_true] at hex
        constructor
        · intro accepts
          exact ⟨a, b, c, d, rest, rfl, by simp [hex], accepts⟩
        · rintro ⟨_, _, _, _, _, same, _, accepts⟩
          cases same
          exact accepts
      · constructor
        · intro accepts
          obtain ⟨_, steps, _⟩ := Place.accepts_cons_iff.mp accepts
          cases (last.trans (if_neg hex)).symm.trans steps
        · rintro ⟨_, _, _, _, _, same, all, _⟩
          cases same
          simp [all] at hex

theorem accepts_quoted {inside s : Bytes} (quoted : IsQuoted inside)
    (behind : (behindString isKey frames).Accepts s) :
    (⟨.text isKey, frames⟩ : Place).Accepts (inside ++ 0x22 :: s) := by
  induction quoted with
  | nil => exact (Place.accepts_cons rfl).mpr behind
  | @plain b inside above unquoted unescaped _ ih =>
      have steps : (⟨.text isKey, frames⟩ : Place).step b = .ok ⟨.text isKey, frames⟩ :=
        (if_neg unquoted).trans ((if_neg unescaped).trans (if_neg (UInt8.not_lt.mpr above)))
      exact (Place.accepts_cons steps).mpr ih
  | @escape b inside simple _ ih =>
      have steps : (⟨.escape isKey, frames⟩ : Place).step b = .ok ⟨.text isKey, frames⟩ := if_pos simple
      exact (Place.accepts_cons rfl).mpr ((Place.accepts_cons steps).mpr ih)
  | @code a b c d inside hex _ ih =>
      have digits := accepts_code.mpr ⟨a, b, c, d, _, rfl, hex, ih⟩
      exact (Place.accepts_cons rfl).mpr ((Place.accepts_cons rfl).mpr digits)

/-- A backslash and what belongs to it. -/
theorem of_accepts_escape {s : Bytes} (accepts : (⟨.escape isKey, frames⟩ : Place).Accepts s) :
    ∃ front rest, s = front ++ rest ∧ front ≠ [] ∧ (∀ inside, IsQuoted inside → IsQuoted (0x5C :: (front ++ inside))) ∧
      (⟨.text isKey, frames⟩ : Place).Accepts rest := by
  cases s with
  | nil => cases accepts
  | cons b s =>
      obtain ⟨next, steps, accepts⟩ := Place.accepts_cons_iff.mp accepts
      simp only [Place.step] at steps
      split at steps
      · rename_i simple
        cases steps
        exact ⟨[b], s, rfl, List.cons_ne_nil _ _, fun _ => .escape simple, accepts⟩
      · split at steps <;> cases steps
        rename_i byCode
        obtain ⟨a, b, c, d, rest, rfl, hex, accepts⟩ := accepts_code.mp accepts
        rw [byCode]
        exact ⟨[0x75, a, b, c, d], rest, rfl, List.cons_ne_nil _ _, fun _ => .code hex, accepts⟩

/-- From between the quotes of a string on to where it ends. -/
theorem of_accepts_text (s : Bytes) (accepts : (⟨.text isKey, frames⟩ : Place).Accepts s) :
    ∃ inside rest, s = inside ++ 0x22 :: rest ∧ IsQuoted inside ∧ (behindString isKey frames).Accepts rest := by
  match s with
  | [] => cases accepts
  | b :: s =>
      obtain ⟨next, steps, accepts⟩ := Place.accepts_cons_iff.mp accepts
      simp only [Place.step] at steps
      split at steps
      · rename_i quote
        cases steps
        exact ⟨[], s, by rw [quote]; rfl, .nil, accepts⟩
      rename_i unquoted
      split at steps
      · rename_i backslash
        cases steps
        obtain ⟨front, behind, rfl, some, goesOn, accepts⟩ := of_accepts_escape accepts
        obtain ⟨inside, rest, rfl, quoted, behind⟩ := of_accepts_text behind accepts
        rw [backslash]
        exact ⟨0x5C :: (front ++ inside), rest, by simp, goesOn inside quoted, behind⟩
      rename_i unescaped
      split at steps <;> cases steps
      rename_i above
      obtain ⟨inside, rest, rfl, quoted, behind⟩ := of_accepts_text s accepts
      exact ⟨b :: inside, rest, rfl, .plain (UInt8.not_lt.mp above) unquoted unescaped quoted, behind⟩
termination_by s.length

end

/-! ## Literal names -/

/-- A literal name is spelt out to its end. -/
theorem of_accepts_literal {frames : List Frame} {letter : UInt8} {name s : Bytes}
    (accepts : (⟨.literal (letter :: name), frames⟩ : Place).Accepts s) :
    ∃ rest, s = letter :: name ++ rest ∧ (⟨.closed, frames⟩ : Place).Accepts rest := by
  induction name generalizing letter s with
  | nil =>
      cases s with
      | nil => cases accepts
      | cons b s =>
          obtain ⟨next, steps, accepts⟩ := Place.accepts_cons_iff.mp accepts
          simp only [Place.step] at steps
          split at steps <;> cases steps
          rename_i same
          exact ⟨s, by rw [same]; rfl, accepts⟩
  | cons second name ih =>
      cases s with
      | nil => cases accepts
      | cons b s =>
          obtain ⟨next, steps, accepts⟩ := Place.accepts_cons_iff.mp accepts
          simp only [Place.step] at steps
          split at steps <;> cases steps
          rename_i same
          obtain ⟨rest, rfl, closed⟩ := ih accepts
          exact ⟨rest, by rw [same]; rfl, closed⟩

end LdapDecoy.Json
