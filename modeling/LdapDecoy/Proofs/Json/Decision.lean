import LdapDecoy.Json.Read
import LdapDecoy.Proofs.Json.Scan

/-!
# The scan decides the grammar

A text is accepted if and only if the rules derive it. What is accepted from a place on is taken apart by induction
on how much of the text is left; what is derived is accepted wherever its phrase can begin, by induction on the
derivation.
-/
namespace LdapDecoy.Json

namespace Frame

/-- The octet that opens a bracket. -/
def opens : Frame → UInt8
  | list => 0x5B
  | object => 0x7B

/-- The octet that closes a bracket. -/
def close : Frame → UInt8
  | list => 0x5D
  | object => 0x7D

/-- What begins behind a comma in a bracket. -/
def again : Frame → Spot
  | list => .value
  | object => .key

end Frame

/-- Whether white space may stand at a spot. -/
def Spot.isBetween : Spot → Bool
  | .value | .opened _ | .key | .colon | .closed => true
  | .text _ | .escape _ | .hex _ _ _ | .literal _ | .number _ => false

/-! ## White space and brackets -/

theorem blank_stays {place : Place} (between : place.spot.isBetween = true) (b : UInt8)
    (blank : isBlank b = true) : place.step b = .ok place := by
  obtain ⟨spot, frames⟩ := place
  cases spot with
  | value | key | colon => exact if_pos blank
  | opened frame => cases frame <;> exact if_pos blank
  | closed => rcases frames with _ | ⟨_ | _, frames⟩ <;> exact if_pos blank
  | text _ | escape _ | hex _ _ _ | literal _ | number _ => cases between

/-- White space makes no difference between the parts of a text. -/
theorem accepts_blanks {place : Place} (between : place.spot.isBetween = true) {front : Bytes}
    (blanks : AreBlanks front) (s : Bytes) : place.Accepts (front ++ s) ↔ place.Accepts s :=
  Place.accepts_append (blank_stays between) blanks s

theorem Frame.again_isBetween (frame : Frame) : frame.again.isBetween = true := by
  cases frame <;> rfl

section
variable {frames : List Frame} {frame : Frame} {s : Bytes}

/-- Behind a value in a bracket comes its end, or a comma. -/
theorem of_accepts_closed (accepts : (⟨.closed, frame :: frames⟩ : Place).Accepts s) :
    ∃ back rest, AreBlanks back ∧
      (s = back ++ frame.close :: rest ∧ (⟨.closed, frames⟩ : Place).Accepts rest ∨
        s = back ++ 0x2C :: rest ∧ (⟨frame.again, frame :: frames⟩ : Place).Accepts rest) := by
  obtain ⟨back, rest, rfl, blanks, stops⟩ := exists_span isBlank s
  rw [accepts_blanks rfl blanks] at accepts
  cases rest with
  | nil => cases frame <;> cases accepts
  | cons b rest =>
      obtain ⟨next, steps, accepts⟩ := Place.accepts_cons_iff.mp accepts
      have solid : ¬ isBlank b = true := Bool.eq_false_iff.mp (stops b rest rfl)
      refine ⟨back, rest, blanks, ?_⟩
      cases frame <;> simp only [Place.step, stepClosed, if_neg solid] at steps
      all_goals
        split at steps
        · rename_i comma
          cases steps
          exact .inr ⟨by rw [comma], accepts⟩
        split at steps <;> cases steps
        rename_i closing
        exact .inl ⟨by rw [closing]; rfl, accepts⟩

/-- Behind an opening bracket, everything but its end is treated like behind a comma. -/
theorem accepts_opened_iff (stops : ∀ b more, s = b :: more → isBlank b = false ∧ b ≠ frame.close) :
    (⟨.opened frame, frame :: frames⟩ : Place).Accepts s ↔ (⟨frame.again, frame :: frames⟩ : Place).Accepts s := by
  cases s with
  | nil => cases frame <;> exact ⟨(nomatch ·), (nomatch ·)⟩
  | cons b s =>
      obtain ⟨solid, other⟩ := stops b s rfl
      replace solid := Bool.eq_false_iff.mp solid
      have same : (⟨.opened frame, frame :: frames⟩ : Place).step b =
          (⟨frame.again, frame :: frames⟩ : Place).step b := by
        cases frame with
        | list => exact (if_neg solid).trans ((if_neg other).trans (if_neg solid).symm)
        | object => exact (if_neg solid).trans ((if_neg other).trans (if_neg solid).symm)
      rw [Place.accepts_cons_iff, Place.accepts_cons_iff, same]

/-- Behind an opening bracket comes its end, or what comes behind a comma too. -/
theorem of_accepts_opened (accepts : (⟨.opened frame, frame :: frames⟩ : Place).Accepts s) :
    (∃ inside rest, s = inside ++ frame.close :: rest ∧ AreBlanks inside ∧
      (⟨.closed, frames⟩ : Place).Accepts rest) ∨
    (⟨frame.again, frame :: frames⟩ : Place).Accepts s := by
  obtain ⟨front, rest, rfl, blanks, stops⟩ := exists_span isBlank s
  rw [accepts_blanks rfl blanks] at accepts
  rw [accepts_blanks frame.again_isBetween blanks]
  by_cases closing : ∃ more, rest = frame.close :: more
  · obtain ⟨more, rfl⟩ := closing
    refine .inl ⟨front, more, rfl, blanks, ?_⟩
    cases frame <;> exact (Place.accepts_cons rfl).mp accepts
  · refine .inr ((accepts_opened_iff ?_).mp accepts)
    intro b more same
    exact ⟨stops b more same, fun closes => closing ⟨more, closes ▸ same⟩⟩

/-- What can begin behind a comma can begin behind an opening bracket. -/
theorem accepts_opened (accepts : (⟨frame.again, frame :: frames⟩ : Place).Accepts s) :
    (⟨.opened frame, frame :: frames⟩ : Place).Accepts s := by
  obtain ⟨front, rest, rfl, blanks, stops⟩ := exists_span isBlank s
  rw [accepts_blanks frame.again_isBetween blanks] at accepts
  refine (accepts_blanks rfl blanks rest).mpr ((accepts_opened_iff ?_).mpr accepts)
  rintro b more rfl
  refine ⟨stops b more rfl, ?_⟩
  rintro rfl
  cases frame <;> cases accepts

/-! ## What is accepted is derived -/

/-- How a text comes apart that is accepted where a value, the elements of a list or the members of an object can
begin. -/
structure Parsed (s : Bytes) : Prop where
  value : ∀ frames, (⟨.value, frames⟩ : Place).Accepts s →
    ∃ front value rest, s = front ++ (value ++ rest) ∧ AreBlanks front ∧ Derives .value value ∧
      (⟨.closed, frames⟩ : Place).Accepts rest
  elements : ∀ frames, (⟨.value, .list :: frames⟩ : Place).Accepts s →
    ∃ inside rest, s = inside ++ 0x5D :: rest ∧ Derives .elements inside ∧
      (⟨.closed, frames⟩ : Place).Accepts rest
  members : ∀ frames, (⟨.key, .object :: frames⟩ : Place).Accepts s →
    ∃ inside rest, s = inside ++ 0x7D :: rest ∧ Derives .members inside ∧
      (⟨.closed, frames⟩ : Place).Accepts rest

/-- A number from its sign on, or without one. -/
theorem derives_number {sign whole fraction exponent : Bytes} (isSign : sign = [] ∨ sign = [0x2D])
    (isWhole : IsWhole whole) (isFraction : IsFraction fraction) (isExponent : IsExponent exponent) :
    Derives .value (sign ++ (whole ++ (fraction ++ exponent))) :=
  .number (.parts isSign isWhole isFraction isExponent)

/-- A literal name from its second letter on. -/
theorem value_of_literal {first letter : UInt8} {name : Bytes} (among : first :: letter :: name ∈ literals)
    (accepts : (⟨.literal (letter :: name), frames⟩ : Place).Accepts s) :
    ∃ value rest, first :: s = value ++ rest ∧ Derives .value value ∧ (⟨.closed, frames⟩ : Place).Accepts rest := by
  obtain ⟨rest, rfl, closed⟩ := of_accepts_literal accepts
  exact ⟨first :: letter :: name, rest, rfl, .literal among, closed⟩

/-- A list or an object from behind its opening bracket on. -/
theorem value_of_opened (shorter : Parsed s)
    (accepts : (⟨.opened frame, frame :: frames⟩ : Place).Accepts s) :
    ∃ value rest, frame.opens :: s = value ++ rest ∧ Derives .value value ∧
      (⟨.closed, frames⟩ : Place).Accepts rest := by
  rcases of_accepts_opened accepts with ⟨inside, rest, rfl, blanks, closed⟩ | accepts
  · refine ⟨frame.opens :: (inside ++ [frame.close]), rest, by simp, ?_, closed⟩
    cases frame with
    | list => exact .emptyList blanks
    | object => exact .emptyObject blanks
  cases frame with
  | list =>
      obtain ⟨inside, rest, rfl, elements, closed⟩ := shorter.elements frames accepts
      exact ⟨0x5B :: (inside ++ [0x5D]), rest, by simp [Frame.opens], .list elements, closed⟩
  | object =>
      obtain ⟨inside, rest, rfl, members, closed⟩ := shorter.members frames accepts
      exact ⟨0x7B :: (inside ++ [0x7D]), rest, by simp [Frame.opens], .object members, closed⟩

/-- A value from its first octet on. -/
theorem value_of_stepValue {b : UInt8} {next : Place} (shorter : Parsed s)
    (steps : stepValue b frames = .ok next) (accepts : next.Accepts s) :
    ∃ value rest, b :: s = value ++ rest ∧ Derives .value value ∧ (⟨.closed, frames⟩ : Place).Accepts rest := by
  unfold stepValue at steps
  split at steps
  · rename_i letter
    cases steps
    exact value_of_literal (by rw [letter]; decide) accepts
  split at steps
  · rename_i letter
    cases steps
    exact value_of_literal (by rw [letter]; decide) accepts
  split at steps
  · rename_i letter
    cases steps
    exact value_of_literal (by rw [letter]; decide) accepts
  split at steps
  · rename_i minus
    cases steps
    obtain ⟨whole, fraction, exponent, rest, rfl, isWhole, isFraction, isExponent, closed⟩ :=
      of_accepts_minus accepts
    exact ⟨_, rest, by rw [minus]; simp, derives_number (.inr rfl) isWhole isFraction isExponent, closed⟩
  split at steps
  · rename_i zero
    cases steps
    obtain ⟨fraction, exponent, rest, rfl, isFraction, isExponent, closed⟩ := of_accepts_zero accepts
    exact ⟨_, rest, by rw [zero]; simp, derives_number (.inl rfl) .zero isFraction isExponent, closed⟩
  rename_i other
  split at steps
  · rename_i digit
    cases steps
    obtain ⟨more, fraction, exponent, rest, rfl, digits, isFraction, isExponent, closed⟩ :=
      of_accepts_digits accepts
    exact ⟨_, rest, by simp, derives_number (.inl rfl) (.digits other digit digits) isFraction isExponent, closed⟩
  split at steps
  · rename_i quote
    cases steps
    obtain ⟨inside, rest, rfl, quoted, closed⟩ := of_accepts_text s accepts
    exact ⟨_, rest, by rw [quote]; simp, .string (.quotes quoted), closed⟩
  split at steps
  · rename_i bracket
    cases steps
    rw [bracket]
    exact value_of_opened shorter accepts
  split at steps <;> cases steps
  rename_i brace
  rw [brace]
  exact value_of_opened shorter accepts

/-- A value, behind the white space in front of it. -/
theorem value_of_shorter (shorter : ∀ t : Bytes, t.length < s.length → Parsed t)
    (accepts : (⟨.value, frames⟩ : Place).Accepts s) :
    ∃ front value rest, s = front ++ (value ++ rest) ∧ AreBlanks front ∧ Derives .value value ∧
      (⟨.closed, frames⟩ : Place).Accepts rest := by
  obtain ⟨front, behind, rfl, blanks, stops⟩ := exists_span isBlank s
  rw [accepts_blanks rfl blanks] at accepts
  cases behind with
  | nil => cases accepts
  | cons b behind =>
      obtain ⟨next, steps, accepts⟩ := Place.accepts_cons_iff.mp accepts
      have solid := Bool.eq_false_iff.mp (stops b behind rfl)
      obtain ⟨value, rest, same, derives, closed⟩ :=
        value_of_stepValue (shorter behind (by simp; omega)) ((if_neg solid).symm.trans steps) accepts
      exact ⟨front, value, rest, by rw [same], blanks, derives, closed⟩

/-- The elements of a list, one by one. -/
theorem elements_of_shorter (shorter : ∀ t : Bytes, t.length < s.length → Parsed t)
    (accepts : (⟨.value, .list :: frames⟩ : Place).Accepts s) :
    ∃ inside rest, s = inside ++ 0x5D :: rest ∧ Derives .elements inside ∧
      (⟨.closed, frames⟩ : Place).Accepts rest := by
  obtain ⟨front, value, behind, rfl, before, derives, closed⟩ := value_of_shorter shorter accepts
  obtain ⟨back, behind, blanks, ⟨rfl, ended⟩ | ⟨rfl, further⟩⟩ := of_accepts_closed closed
  · exact ⟨_, behind, by simp; rfl, .lastElement (.element before derives blanks), ended⟩
  · obtain ⟨inside, rest, rfl, elements, ended⟩ :=
      (shorter behind (by simp; omega)).elements frames further
    exact ⟨_, rest, by simp, .moreElements (.element before derives blanks) elements, ended⟩

/-- The members of an object, one by one. -/
theorem members_of_shorter (shorter : ∀ t : Bytes, t.length < s.length → Parsed t)
    (accepts : (⟨.key, .object :: frames⟩ : Place).Accepts s) :
    ∃ inside rest, s = inside ++ 0x7D :: rest ∧ Derives .members inside ∧
      (⟨.closed, frames⟩ : Place).Accepts rest := by
  obtain ⟨front, behind, rfl, before, stops⟩ := exists_span isBlank s
  rw [accepts_blanks rfl before] at accepts
  cases behind with
  | nil => cases accepts
  | cons b behind =>
  obtain ⟨next, steps, accepts⟩ := Place.accepts_cons_iff.mp accepts
  replace steps := (if_neg (Bool.eq_false_iff.mp (stops b behind rfl))).symm.trans steps
  unfold stepKey at steps
  split at steps <;> cases steps
  rename_i quote
  obtain ⟨name, behindName, rfl, quoted, accepts⟩ := of_accepts_text behind accepts
  obtain ⟨back, behindBack, rfl, blanks, stops⟩ := exists_span isBlank behindName
  replace accepts : (⟨.colon, .object :: frames⟩ : Place).Accepts (back ++ behindBack) := accepts
  rw [accepts_blanks rfl blanks] at accepts
  cases behindBack with
  | nil => cases accepts
  | cons mark written =>
  obtain ⟨next, steps, accepts⟩ := Place.accepts_cons_iff.mp accepts
  replace steps := (if_neg (Bool.eq_false_iff.mp (stops mark written rfl))).symm.trans steps
  split at steps <;> cases steps
  rename_i colon
  obtain ⟨space, value, behindValue, rfl, spaces, derives, closed⟩ :=
    (shorter written (by simp; omega)).value (.object :: frames) accepts
  obtain ⟨spaces', behind, blanks', ⟨rfl, ended⟩ | ⟨rfl, further⟩⟩ := of_accepts_closed closed
  · refine ⟨_, behind, ?_,
      .lastMember (.member before (.quotes quoted) blanks (.element spaces derives blanks')), ended⟩
    rw [quote, colon]
    simp
    rfl
  · obtain ⟨inside, rest, rfl, members, ended⟩ :=
      (shorter behind (by simp; omega)).members frames further
    refine ⟨_, rest, ?_,
      .moreMembers (.member before (.quotes quoted) blanks (.element spaces derives blanks')) members, ended⟩
    rw [quote, colon]
    simp

end

theorem parsed (s : Bytes) : Parsed s := by
  induction length : s.length using Nat.strongRecOn generalizing s with
  | ind n ih =>
      have shorter (t : Bytes) (less : t.length < s.length) : Parsed t := ih t.length (length ▸ less) t rfl
      exact ⟨fun _ => value_of_shorter shorter, fun _ => elements_of_shorter shorter,
        fun _ => members_of_shorter shorter⟩

/-! ## What is derived is accepted -/

/-- Whether a phrase is accepted wherever it can begin, if what stands behind it is accepted there. -/
def Phrase.Passes : Phrase → Bytes → Prop
  | .value, s | .element, s => ∀ frames rest, (⟨.closed, frames⟩ : Place).Accepts rest →
      (⟨.value, frames⟩ : Place).Accepts (s ++ rest)
  | .elements, s => ∀ frames rest, (⟨.closed, frames⟩ : Place).Accepts rest →
      (⟨.value, .list :: frames⟩ : Place).Accepts (s ++ 0x5D :: rest)
  | .member, s => ∀ frames rest, (⟨.closed, .object :: frames⟩ : Place).Accepts rest →
      (⟨.key, .object :: frames⟩ : Place).Accepts (s ++ rest)
  | .members, s => ∀ frames rest, (⟨.closed, frames⟩ : Place).Accepts rest →
      (⟨.key, .object :: frames⟩ : Place).Accepts (s ++ 0x7D :: rest)

/-- A number can begin where a value can, with its whole part or with a sign. -/
theorem accepts_number {frames : List Frame} {s rest : Bytes} (isNumber : IsNumber s)
    (closed : (⟨.closed, frames⟩ : Place).Accepts rest) : (⟨.value, frames⟩ : Place).Accepts (s ++ rest) := by
  have digits (b : UInt8) (other : b ≠ 0x30) (digit : isDigit b = true) :
      (⟨.value, frames⟩ : Place).step b = .ok ⟨.number .digits, frames⟩ := by
    have ne (c : UInt8) (noDigit : isDigit c = false) : b ≠ c := ne_of_digit digit noDigit
    simp [Place.step, stepValue, isBlank, ne 0x20 rfl, ne 0x0A rfl, ne 0x09 rfl, ne 0x0D rfl, ne 0x6E rfl,
      ne 0x74 rfl, ne 0x66 rfl, ne 0x2D rfl, other, digit]
  have signed (b : UInt8) (other : b ≠ 0x30) (digit : isDigit b = true) :
      (⟨.number .minus, frames⟩ : Place).step b = .ok ⟨.number .digits, frames⟩ :=
    (if_neg other).trans (if_pos digit)
  rcases isNumber with @⟨sign, whole, fraction, exponent, rfl | rfl, isWhole, isFraction, isExponent⟩
  · rw [List.nil_append, List.append_assoc, List.append_assoc]
    exact accepts_whole rfl digits isWhole isFraction isExponent closed
  · rw [List.singleton_append, List.cons_append, List.append_assoc, List.append_assoc]
    exact (Place.accepts_cons rfl).mpr (accepts_whole rfl signed isWhole isFraction isExponent closed)

theorem accepts_string {frames : List Frame} {isKey : Bool} {place : Place} {s rest : Bytes}
    (begins : place.step 0x22 = .ok ⟨.text isKey, frames⟩) (isString : IsString s)
    (behind : (behindString isKey frames).Accepts rest) : place.Accepts (s ++ rest) := by
  obtain ⟨quoted⟩ := isString
  rw [List.cons_append, List.append_assoc, List.singleton_append]
  exact (Place.accepts_cons begins).mpr (accepts_quoted quoted behind)

theorem Derives.passes {phrase : Phrase} {s : Bytes} (derives : Derives phrase s) : phrase.Passes s := by
  induction derives with
  | literal among =>
      intro frames rest closed
      rcases among with _ | ⟨_, _ | ⟨_, _ | ⟨_, ⟨⟩⟩⟩⟩ <;> exact closed
  | number isNumber => exact fun frames rest => accepts_number isNumber
  | string isString => exact fun frames rest closed => accepts_string rfl isString closed
  | emptyList blanks =>
      intro frames rest closed
      rw [List.cons_append, List.append_assoc]
      exact (Place.accepts_cons rfl).mpr ((accepts_blanks rfl blanks _).mpr closed)
  | list _ ih =>
      intro frames rest closed
      rw [List.cons_append, List.append_assoc]
      have opened : (⟨.opened .list, .list :: frames⟩ : Place).Accepts _ := accepts_opened (ih frames rest closed)
      exact (Place.accepts_cons rfl).mpr opened
  | emptyObject blanks =>
      intro frames rest closed
      rw [List.cons_append, List.append_assoc]
      exact (Place.accepts_cons rfl).mpr ((accepts_blanks rfl blanks _).mpr closed)
  | object _ ih =>
      intro frames rest closed
      rw [List.cons_append, List.append_assoc]
      have opened : (⟨.opened .object, .object :: frames⟩ : Place).Accepts _ :=
        accepts_opened (ih frames rest closed)
      exact (Place.accepts_cons rfl).mpr opened
  | element before _ behind ih =>
      intro frames rest closed
      rw [List.append_assoc, List.append_assoc, accepts_blanks rfl before]
      exact ih frames _ ((accepts_blanks rfl behind rest).mpr closed)
  | lastElement _ ih => exact fun frames rest closed => ih (.list :: frames) _ closed
  | moreElements _ _ first others =>
      intro frames rest closed
      rw [List.append_assoc]
      exact first (.list :: frames) _ (others frames rest closed)
  | member before isString behind _ ih =>
      intro frames rest closed
      rw [List.append_assoc, List.append_assoc, List.append_assoc, accepts_blanks rfl before]
      refine accepts_string rfl isString ((accepts_blanks rfl behind _).mpr ?_)
      exact (Place.accepts_cons rfl).mpr (ih (.object :: frames) rest closed)
  | lastMember _ ih => exact fun frames rest closed => ih frames _ closed
  | moreMembers _ _ first others =>
      intro frames rest closed
      rw [List.append_assoc]
      exact first frames _ (others frames rest closed)

/-! ## Whole texts -/

theorem blanks_of_accepts_closed {s : Bytes} (accepts : (⟨.closed, []⟩ : Place).Accepts s) : AreBlanks s := by
  obtain ⟨back, rest, rfl, blanks, stops⟩ := exists_span isBlank s
  rw [accepts_blanks rfl blanks] at accepts
  cases rest with
  | nil =>
      rw [List.append_nil]
      exact blanks
  | cons b rest =>
      obtain ⟨next, steps, _⟩ := Place.accepts_cons_iff.mp accepts
      cases (if_neg (Bool.eq_false_iff.mp (stops b rest rfl))).symm.trans steps

/-- A scan accepts the texts that are one value with white space around it, and no others. -/
theorem check_eq_ok_iff {s : Bytes} : check s = .ok () ↔ Derives .element s := by
  constructor
  · intro accepts
    obtain ⟨front, value, rest, rfl, before, derives, closed⟩ := (parsed s).value [] accepts
    exact .element before derives (blanks_of_accepts_closed closed)
  · intro derives
    have accepts := derives.passes [] [] rfl
    rw [List.append_nil] at accepts
    exact accepts

theorem exists_value {s : Bytes} (derives : Derives .element s) :
    ∃ front value back, s = front ++ (value ++ back) ∧ AreBlanks front ∧ Derives .value value ∧ AreBlanks back := by
  cases derives with
  | element before isValue behind => exact ⟨_, _, _, rfl, before, isValue, behind⟩

/-- Whether octets neither begin nor end with white space. -/
def IsTrimmed (s : Bytes) : Prop :=
  (∀ b, s.head? = some b → isBlank b = false) ∧ ∀ b, s.getLast? = some b → isBlank b = false

theorem isTrimmed_enclosed {first last : UInt8} (starts : isBlank first = false) (ends : isBlank last = false)
    (inside : Bytes) : IsTrimmed (first :: (inside ++ [last])) := by
  constructor
  · intro b same
    cases same
    exact starts
  · intro b same
    rw [← List.cons_append, List.getLast?_concat] at same
    cases same
    exact ends

theorem isTrimmed_of_solid {s : Bytes} (solid : ∀ b ∈ s, isBlank b = false) : IsTrimmed s :=
  ⟨fun b same => solid b (List.mem_of_head? same), fun b same => solid b (List.mem_of_getLast? same)⟩

theorem solid_of_all {s : Bytes} (solid : (s.all fun b => !isBlank b) = true) : ∀ b ∈ s, isBlank b = false := by
  intro b among
  simpa using List.all_eq_true.mp solid b among

theorem solid_of_digit {b : UInt8} (digit : isDigit b = true) : isBlank b = false := by
  have ne (c : UInt8) (other : isDigit c = false) : b ≠ c := ne_of_digit digit other
  simp [isBlank, ne 0x20 rfl, ne 0x0A rfl, ne 0x09 rfl, ne 0x0D rfl]

theorem AreDigits.solid {s : Bytes} (digits : AreDigits s) : ∀ b ∈ s, isBlank b = false :=
  fun b among => solid_of_digit (digits b among)

theorem IsWhole.solid {s : Bytes} (isWhole : IsWhole s) : ∀ b ∈ s, isBlank b = false := by
  cases isWhole with
  | zero => exact solid_of_all rfl
  | digits _ digit further => exact List.forall_mem_cons.mpr ⟨solid_of_digit digit, further.solid⟩

theorem IsFraction.solid {s : Bytes} (isFraction : IsFraction s) : ∀ b ∈ s, isBlank b = false := by
  cases isFraction with
  | none => exact List.forall_mem_nil _
  | some digit further =>
      exact List.forall_mem_cons.mpr ⟨rfl, List.forall_mem_cons.mpr ⟨solid_of_digit digit, further.solid⟩⟩

theorem IsExponent.solid {s : Bytes} (isExponent : IsExponent s) : ∀ b ∈ s, isBlank b = false := by
  cases isExponent with
  | none => exact List.forall_mem_nil _
  | @some mark first sign more isMark isSign digit further =>
      have markSolid : isBlank mark = false := by rcases isMark with rfl | rfl <;> rfl
      have signSolid : ∀ b ∈ sign, isBlank b = false := by
        rcases isSign with rfl | rfl | rfl <;> exact solid_of_all rfl
      exact List.forall_mem_cons.mpr ⟨markSolid, List.forall_mem_append.mpr
        ⟨signSolid, List.forall_mem_cons.mpr ⟨solid_of_digit digit, further.solid⟩⟩⟩

/-- There is no white space in a number. -/
theorem IsNumber.solid {s : Bytes} (isNumber : IsNumber s) : ∀ b ∈ s, isBlank b = false := by
  obtain ⟨isSign, isWhole, isFraction, isExponent⟩ := isNumber
  refine List.forall_mem_append.mpr ⟨?_, List.forall_mem_append.mpr
    ⟨isWhole.solid, List.forall_mem_append.mpr ⟨isFraction.solid, isExponent.solid⟩⟩⟩
  rcases isSign with rfl | rfl <;> exact solid_of_all rfl

theorem Derives.isTrimmed {value : Bytes} (derives : Derives .value value) : IsTrimmed value := by
  cases derives with
  | literal among =>
      have solid : (literals.all fun name => name.all fun b => !isBlank b) = true := rfl
      exact isTrimmed_of_solid (solid_of_all (List.all_eq_true.mp solid value among))
  | number isNumber => exact isTrimmed_of_solid isNumber.solid
  | string isString =>
      obtain ⟨_⟩ := isString
      exact isTrimmed_enclosed rfl rfl _
  | emptyList _ | list _ | emptyObject _ | object _ => exact isTrimmed_enclosed rfl rfl _

theorem Derives.check {value : Bytes} (derives : Derives .value value) : Json.check value = .ok () :=
  check_eq_ok_iff.mpr derives.element_of_value

/-- A text that does not end with white space is accepted if it is white space and a value. -/
theorem check_eq_ok_iff_of_getLast? {s : Bytes} (ends : ∀ b, s.getLast? = some b → isBlank b = false) :
    Json.check s = .ok () ↔ ∃ front value, s = front ++ value ∧ AreBlanks front ∧ Derives .value value := by
  constructor
  · intro accepted
    obtain ⟨front, value, back, rfl, before, derives, behind⟩ := exists_value (check_eq_ok_iff.mp accepted)
    have noBack : back = [] := by
      rcases List.eq_nil_or_concat back with rfl | ⟨init, b, rfl⟩
      · rfl
      · have last : (front ++ (value ++ init.concat b)).getLast? = some b := by
          rw [List.concat_eq_append, ← List.append_assoc, ← List.append_assoc, List.getLast?_concat]
        cases (behind b (by simp)).symm.trans (ends b last)
    exact ⟨front, value, by rw [noBack, List.append_nil], before, derives⟩
  · rintro ⟨front, value, rfl, before, derives⟩
    rw [← List.append_nil value]
    exact check_eq_ok_iff.mpr (.element before derives areBlanks_nil)

/-- What a scan accepts is a value, if there is no white space around it. -/
theorem isValue_iff {s : Bytes} : Derives .value s ↔ Json.check s = .ok () ∧ IsTrimmed s := by
  constructor
  · intro derives
    exact ⟨derives.check, derives.isTrimmed⟩
  · rintro ⟨accepted, starts, ends⟩
    obtain ⟨front, value, rfl, before, derives⟩ := (check_eq_ok_iff_of_getLast? ends).mp accepted
    have noFront : front = [] := by
      cases front with
      | nil => rfl
      | cons b front => cases (before b (.head _)).symm.trans (starts b rfl)
    rw [noFront, List.nil_append]
    exact derives

theorem bare_of_isTrimmed {s : Bytes} (isTrimmed : IsTrimmed s) : bare s = s := by
  have ends : s.reverse.dropWhile isBlank = s.reverse := by
    refine dropWhile_of_head? fun b same => isTrimmed.2 b ?_
    rw [← List.head?_reverse]
    exact same
  rw [bare, dropWhile_of_head? isTrimmed.1, ends, List.reverse_reverse]

end LdapDecoy.Json
