import LdapDecoy.Proofs.Json.Decision

/-!
# An object behind a fragment

A scan does not look at the brackets that were open before it began, and it is not done while one of them still is. So
an object whose first name begins with a letter ends a JSON text only behind white space: in any other text it stands
inside of something, or behind something that is whole already, or its own quote ends a string.
-/
namespace LdapDecoy.Json

/-! ## Places that a scan comes to -/

/-- Whether a spot lies inside a bracket. -/
def Spot.isInside : Spot → Bool
  | .opened _ | .key | .colon => true
  | .text isKey | .escape isKey | .hex isKey _ _ => isKey
  | .value | .closed | .literal _ | .number _ => false

/-- Whether no brace is among the letters that a literal name still needs. -/
def Spot.IsBraceless : Spot → Prop
  | .literal rest => 0x7B ∉ rest
  | _ => True

/-- Whether an octet is none of those that can follow a string, be it a name or a value. -/
def isStray (b : UInt8) : Bool := !(isBlank b || b = 0x3A || b = 0x2C || b = 0x5D || b = 0x7D)

namespace Place

/-- What holds of every place that a scan comes to. -/
structure IsSound (place : Place) : Prop where
  inside : place.spot.isInside = true → place.frames ≠ []
  braceless : place.spot.IsBraceless

variable {place next : Place} {b : UInt8} {frames : List Frame}

theorem IsSound.of_outside {spot : Spot} (outside : spot.isInside = false) (braceless : spot.IsBraceless) :
    (⟨spot, frames⟩ : Place).IsSound := by
  refine ⟨fun inside => ?_, braceless⟩
  rw [outside] at inside
  cases inside

theorem start_isSound : start.IsSound := .of_outside rfl trivial

theorem IsSound.of_stepClosed (steps : stepClosed b frames = .ok next) : next.IsSound := by
  unfold stepClosed at steps
  repeat' split at steps
  all_goals cases steps
  all_goals exact ⟨by simp [Spot.isInside], trivial⟩

theorem IsSound.of_stepValue (steps : stepValue b frames = .ok next) : next.IsSound := by
  unfold stepValue at steps
  repeat' split at steps
  all_goals cases steps
  all_goals exact ⟨by simp [Spot.isInside], by simp [Spot.IsBraceless]⟩

theorem IsSound.of_stepKey (inside : frames ≠ []) (steps : stepKey b frames = .ok next) : next.IsSound := by
  unfold stepKey at steps
  split at steps <;> cases steps
  exact ⟨fun _ => inside, trivial⟩

theorem IsSound.of_stepNumber {part : NumberPart} (steps : stepNumber b frames part = .ok next) : next.IsSound := by
  have number (part : NumberPart) : (⟨.number part, frames⟩ : Place).IsSound := .of_outside rfl trivial
  unfold stepNumber at steps
  repeat' split at steps
  all_goals first
    | exact .of_stepClosed steps
    | cases steps
  all_goals exact number _

/-- Where a scan moves on from such a place is such a place. -/
theorem IsSound.step (sound : place.IsSound) (steps : place.step b = .ok next) : next.IsSound := by
  obtain ⟨spot, frames⟩ := place
  have stays (same : (Except.ok ⟨spot, frames⟩ : Except Fault Place) = .ok next) : next.IsSound := by
    cases same
    exact sound
  cases spot with
  | value =>
      simp only [Place.step] at steps
      split at steps
      · exact stays steps
      · exact .of_stepValue steps
  | opened frame =>
      cases frame <;> simp only [Place.step] at steps
      all_goals
        split at steps
        · exact stays steps
        split at steps
        · cases steps
          exact .of_outside rfl trivial
      · exact .of_stepValue steps
      · exact .of_stepKey (sound.inside rfl) steps
  | key =>
      simp only [Place.step] at steps
      split at steps
      · exact stays steps
      · exact .of_stepKey (sound.inside rfl) steps
  | colon =>
      simp only [Place.step] at steps
      split at steps
      · exact stays steps
      split at steps <;> cases steps
      exact .of_outside rfl trivial
  | closed => exact .of_stepClosed steps
  | text isKey =>
      simp only [Place.step] at steps
      split at steps
      · cases steps
        cases isKey
        · exact .of_outside rfl trivial
        · exact ⟨fun _ => sound.inside rfl, trivial⟩
      split at steps
      · cases steps
        exact ⟨sound.inside, trivial⟩
      split at steps
      · cases steps
      · exact stays steps
  | escape isKey =>
      simp only [Place.step] at steps
      split at steps
      · cases steps
        exact ⟨sound.inside, trivial⟩
      split at steps <;> cases steps
      exact ⟨sound.inside, trivial⟩
  | hex isKey seen good =>
      simp only [Place.step] at steps
      split at steps
      · cases steps
        exact ⟨sound.inside, trivial⟩
      split at steps <;> cases steps
      exact ⟨sound.inside, trivial⟩
  | literal rest =>
      rcases rest with _ | ⟨letter, _ | ⟨second, rest⟩⟩
      · exact .of_stepClosed steps
      all_goals
        simp only [Place.step] at steps
        split at steps <;> cases steps
      · exact .of_outside rfl trivial
      · exact .of_outside rfl (List.not_mem_of_not_mem_cons sound.braceless)
  | number part => exact .of_stepNumber steps

/-! ## Brackets around the open ones -/

/-- The place with further brackets open around those that are. -/
def under (place : Place) (more : List Frame) : Place := ⟨place.spot, place.frames ++ more⟩

theorem stepClosed_under (steps : stepClosed b frames = .ok next) (more : List Frame) :
    stepClosed b (frames ++ more) = .ok (next.under more) := by
  rcases frames with _ | ⟨frame, frames⟩
  · simp only [stepClosed] at steps
    split at steps <;> cases steps
    rename_i blank
    have between : (⟨.closed, more⟩ : Place).spot.isBetween = true := rfl
    exact blank_stays between b blank
  · have same : stepClosed b (frame :: frames ++ more) = (stepClosed b (frame :: frames)).map (·.under more) := by
      cases frame
      all_goals
        simp only [stepClosed, List.cons_append]
        repeat' split
        all_goals rfl
    rw [same, steps]
    rfl

theorem stepValue_under (b : UInt8) (frames more : List Frame) :
    stepValue b (frames ++ more) = (stepValue b frames).map (·.under more) := by
  unfold stepValue
  repeat' split
  all_goals rfl

theorem stepKey_under (b : UInt8) (frames more : List Frame) :
    stepKey b (frames ++ more) = (stepKey b frames).map (·.under more) := by
  unfold stepKey
  split <;> rfl

theorem stepNumber_under {part : NumberPart} (steps : stepNumber b frames part = .ok next) (more : List Frame) :
    stepNumber b (frames ++ more) part = .ok (next.under more) := by
  cases part
  all_goals
    simp only [stepNumber] at steps ⊢
    repeat' split at steps
    all_goals simp only [*, if_true, if_false, Bool.false_eq_true]
    all_goals first
      | exact stepClosed_under steps more
      | (cases steps; rfl)
      | cases steps

/-- A step does not look at the brackets around those that are open at a place. -/
theorem step_under (sound : place.IsSound) (steps : place.step b = .ok next) (more : List Frame) :
    (place.under more).step b = .ok (next.under more) := by
  obtain ⟨spot, frames⟩ := place
  have moved (same : (⟨spot, frames ++ more⟩ : Place).step b =
      ((⟨spot, frames⟩ : Place).step b).map (·.under more)) :
      (⟨spot, frames ++ more⟩ : Place).step b = .ok (next.under more) := by
    rw [same, steps]
    rfl
  cases spot with
  | closed => exact stepClosed_under steps more
  | number part => exact stepNumber_under steps more
  | literal rest =>
      rcases rest with _ | ⟨letter, _ | ⟨second, rest⟩⟩
      · exact stepClosed_under steps more
      all_goals
        apply moved
        simp only [Place.step]
        split <;> rfl
  | opened frame =>
      have tail : (frames ++ more).tail = frames.tail ++ more := List.tail_append_of_ne_nil (sound.inside rfl)
      apply moved
      cases frame
      all_goals
        simp only [Place.step, stepValue_under, stepKey_under, tail]
        repeat' split
        all_goals rfl
  | value | key | colon | text isKey | escape isKey | hex isKey seen good =>
      apply moved
      simp only [Place.step, stepValue_under, stepKey_under]
      repeat' split
      all_goals rfl

theorem finish_under (frame : Frame) (more : List Frame) : (place.under (frame :: more)).finish ≠ .ok () := by
  obtain ⟨spot, frames⟩ := place
  have unfinished : finishClosed (frames ++ frame :: more) ≠ .ok () := by
    rcases frames with _ | ⟨_ | _, _⟩ <;> cases frame <;> exact nofun
  cases spot with
  | closed => exact unfinished
  | literal rest => cases rest with
    | nil => exact unfinished
    | cons _ _ => exact nofun
  | number part => cases part <;> first | exact unfinished | exact nofun
  | opened frame => cases frame <;> exact nofun
  | value | key | colon | text _ | escape _ | hex _ _ _ => exact nofun

/-- What a scan accepts from a place on, it does not accept with further brackets open around it. -/
theorem not_accepts_under (sound : place.IsSound) {s : Bytes} (accepts : place.Accepts s) (frame : Frame)
    (more : List Frame) : ¬ (place.under (frame :: more)).Accepts s := by
  induction s generalizing place with
  | nil => exact finish_under frame more
  | cons b s ih =>
      obtain ⟨next, steps, accepts⟩ := accepts_cons_iff.mp accepts
      rw [accepts_cons (step_under sound steps (frame :: more))]
      exact ih (sound.step steps) accepts

/-! ## An object behind something else -/

/-- Four digits of an escape are refused once one of them is none. -/
theorem not_accepts_broken (isKey : Bool) (seen : Nat) (frames : List Frame) (s : Bytes) :
    ¬ (⟨.hex isKey seen false, frames⟩ : Place).Accepts s := by
  induction s generalizing seen with
  | nil =>
      intro accepts
      cases accepts
  | cons b s ih =>
      intro accepts
      obtain ⟨next, steps, accepts⟩ := accepts_cons_iff.mp accepts
      simp only [Place.step, Bool.false_and, Bool.false_eq_true, if_false] at steps
      split at steps <;> cases steps
      exact ih (seen + 1) accepts

/-- Behind a string or another value there is no stray octet. -/
theorem not_accepts_stray {b : UInt8} (stray : isStray b = true) (isKey : Bool) (frames : List Frame) (s : Bytes) :
    ¬ (behindString isKey frames).Accepts (b :: s) := by
  intro accepts
  obtain ⟨next, steps, _⟩ := accepts_cons_iff.mp accepts
  simp only [isStray, Bool.not_eq_true', Bool.or_eq_false_iff, decide_eq_false_iff_not] at stray
  obtain ⟨⟨⟨⟨solid, colon⟩, comma⟩, bracket⟩, brace⟩ := stray
  cases isKey with
  | true => simp [behindString, Place.step, solid, colon] at steps
  | false =>
      rcases frames with _ | ⟨_ | _, frames⟩ <;>
        simp [behindString, Place.step, stepClosed, solid, comma, bracket, brace] at steps

section
variable {letter : UInt8} {rest : Bytes}

/-- An object whose first name begins with a stray letter is accepted at no other place than the start, if it is a value
by itself. -/
theorem eq_start_of_accepts (stray : isStray letter = true) (sound : place.IsSound)
    (whole : start.Accepts (0x7B :: 0x22 :: letter :: rest))
    (accepts : place.Accepts (0x7B :: 0x22 :: letter :: rest)) : place = start := by
  obtain ⟨spot, frames⟩ := place
  have outermost (accepts : (⟨.value, frames⟩ : Place).Accepts (0x7B :: 0x22 :: letter :: rest)) : frames = [] := by
    cases frames with
    | nil => rfl
    | cons frame frames => exact absurd accepts (not_accepts_under start_isSound whole frame frames)
  have notBehind := not_accepts_stray (show isStray 0x7B = true from rfl) false frames (0x22 :: letter :: rest)
  obtain ⟨next, steps, further⟩ := accepts_cons_iff.mp accepts
  cases spot with
  | value =>
      rw [outermost accepts]
      rfl
  | opened frame =>
      cases frame with
      | object => cases steps
      | list =>
          -- an object begins here as it would begin behind a comma
          have same : (⟨.value, frames⟩ : Place).step 0x7B = .ok next := steps
          exact absurd (outermost ((accepts_cons same).mpr further)) (sound.inside rfl)
  | text isKey =>
      -- the quote of the name ends the text, behind which its letter cannot stand
      cases steps
      exact absurd ((accepts_cons rfl).mp further) (not_accepts_stray stray isKey frames rest)
  | hex isKey seen good =>
      have noDigit : (good && isHexDigit 0x7B) = false := Bool.and_false good
      simp only [Place.step, noDigit] at steps
      split at steps <;> cases steps
      exact absurd further (not_accepts_broken isKey (seen + 1) frames _)
  | literal name =>
      rcases name with _ | ⟨first, _ | ⟨second, name⟩⟩
      · exact absurd accepts notBehind
      all_goals
        simp only [Place.step] at steps
        split at steps <;> cases steps
        rename_i same
        exact absurd (List.mem_cons.mpr (.inl same)) sound.braceless
  | key | colon | escape isKey => cases steps
  | closed => exact absurd accepts notBehind
  | number part =>
      cases part with
      | zero | digits | fraction | exponent => exact absurd accepts notBehind
      | minus | point | mark | sign => cases steps

end

theorem stepClosed_ne_start (b : UInt8) (frames : List Frame) : stepClosed b frames ≠ .ok start := by
  intro steps
  unfold stepClosed at steps
  repeat' split at steps
  all_goals cases steps

theorem stepValue_ne_start (b : UInt8) (frames : List Frame) : stepValue b frames ≠ .ok start := by
  intro steps
  unfold stepValue at steps
  repeat' split at steps
  all_goals cases steps

theorem stepNumber_ne_start (b : UInt8) (frames : List Frame) (part : NumberPart) :
    stepNumber b frames part ≠ .ok start := by
  intro steps
  unfold stepNumber at steps
  repeat' split at steps
  all_goals first
    | exact stepClosed_ne_start b frames steps
    | cases steps

/-- A scan comes to the start from the start alone, over white space. -/
theorem eq_start_of_step (sound : place.IsSound) (steps : place.step b = .ok start) :
    place = start ∧ isBlank b = true := by
  obtain ⟨spot, frames⟩ := place
  cases spot with
  | value =>
      simp only [Place.step] at steps
      split at steps
      · rename_i blank
        cases steps
        exact ⟨rfl, blank⟩
      · exact absurd steps (stepValue_ne_start b frames)
  | colon =>
      -- a colon stands inside an object
      simp only [Place.step] at steps
      split at steps
      · cases steps
      split at steps <;> cases steps
      exact absurd rfl (sound.inside rfl)
  | closed => exact absurd steps (stepClosed_ne_start b frames)
  | number part => exact absurd steps (stepNumber_ne_start b frames part)
  | literal name =>
      rcases name with _ | ⟨first, _ | ⟨second, name⟩⟩
      · exact absurd steps (stepClosed_ne_start b frames)
      all_goals
        simp only [Place.step] at steps
        split at steps <;> cases steps
  | opened frame =>
      cases frame <;> simp only [Place.step, stepKey] at steps
      all_goals
        repeat' split at steps
        all_goals first
          | exact absurd steps (stepValue_ne_start b frames)
          | cases steps
  | key | escape isKey | hex isKey seen good =>
      simp only [Place.step, stepKey] at steps
      repeat' split at steps
      all_goals cases steps
  | text isKey =>
      cases isKey <;> simp only [Place.step] at steps
      all_goals
        repeat' split at steps
        all_goals cases steps

/-- What stands in front of such an object, from a place on. -/
theorem blanks_of_accepts {letter : UInt8} {front rest : Bytes} (stray : isStray letter = true) (sound : place.IsSound)
    (whole : start.Accepts (0x7B :: 0x22 :: letter :: rest))
    (accepts : place.Accepts (front ++ 0x7B :: 0x22 :: letter :: rest)) : place = start ∧ AreBlanks front := by
  induction front generalizing place with
  | nil => exact ⟨eq_start_of_accepts stray sound whole accepts, areBlanks_nil⟩
  | cons b front ih =>
      obtain ⟨next, steps, accepts⟩ := accepts_cons_iff.mp accepts
      obtain ⟨rfl, blanks⟩ := ih (sound.step steps) accepts
      obtain ⟨begins, blank⟩ := eq_start_of_step sound steps
      exact ⟨begins, List.forall_mem_cons.mpr ⟨blank, blanks⟩⟩

end Place

/-- An object whose first name begins with a stray letter ends a JSON text if white space stands in front of it, and
no other text. -/
theorem check_behind_iff {letter : UInt8} {front rest : Bytes} (stray : isStray letter = true)
    (isValue : Derives .value (0x7B :: 0x22 :: letter :: rest)) :
    check (front ++ 0x7B :: 0x22 :: letter :: rest) = .ok () ↔ AreBlanks front := by
  constructor
  · intro accepts
    exact (Place.blanks_of_accepts stray Place.start_isSound isValue.check accepts).2
  · intro blanks
    exact (accepts_blanks rfl blanks _).mpr isValue.check

end LdapDecoy.Json
