import LdapDecoy.Proofs.Json.Decision
import LdapDecoy.Proofs.Json.Text

/-!
# JSON objects, written and read

An object that is written from names and values is a value by the rules, and is read as these names and values,
whatever the names are.
-/
namespace LdapDecoy.Json
open Text.Utf8 (encode encode_append)

/-! ## Writing objects -/

/-- The members of an object behind its opening bracket, with their values as they are written. -/
def writeFrom : List (String × Bytes) → Bytes
  | [] => [0x7D]
  | [(name, value)] => encode (text name.toList) ++ 0x3A :: (value ++ [0x7D])
  | (name, value) :: member :: more =>
    encode (text name.toList) ++ 0x3A :: (value ++ 0x2C :: writeFrom (member :: more))

/-- An object of members with their values as they are written. -/
def write (members : List (String × Bytes)) : Bytes := 0x7B :: writeFrom members

theorem member_derives (name : String) {value : Bytes} (isValue : Derives .value value) :
    Derives .member (encode (text name.toList) ++ 0x3A :: value) :=
  .member areBlanks_nil (text_isString name.toList) areBlanks_nil isValue.element_of_value

theorem writeFrom_derives (first : String × Bytes) (more : List (String × Bytes))
    (values : ∀ m ∈ first :: more, Derives .value m.2) :
    ∃ inside, writeFrom (first :: more) = inside ++ [0x7D] ∧ Derives .members inside := by
  induction more generalizing first with
  | nil =>
      refine ⟨encode (text first.1.toList) ++ 0x3A :: first.2, ?_, .lastMember (member_derives _ (values _ (.head _)))⟩
      rw [writeFrom, List.append_assoc, List.cons_append]
  | cons next more ih =>
      obtain ⟨inside, same, members⟩ := ih next fun m among => values m (.tail _ among)
      refine ⟨encode (text first.1.toList) ++ 0x3A :: first.2 ++ 0x2C :: inside, ?_,
        .moreMembers (member_derives _ (values _ (.head _))) members⟩
      rw [writeFrom, same, List.append_assoc, List.append_assoc, List.cons_append, List.cons_append]

/-- An object of values is a value. -/
theorem write_isValue {members : List (String × Bytes)} (values : ∀ m ∈ members, Derives .value m.2) :
    Derives .value (write members) := by
  cases members with
  | nil => exact .emptyObject areBlanks_nil
  | cons first more =>
      obtain ⟨inside, same, members⟩ := writeFrom_derives first more values
      rw [write, same]
      exact .object members

theorem encode_member (name : String) (value : List Char) (rest : List Char) :
    encode (member name value ++ rest) = encode (text name.toList) ++ 0x3A :: (encode value ++ encode rest) := by
  have colon : encode (':' :: (value ++ rest)) = 0x3A :: (encode value ++ encode rest) :=
    congrArg (0x3A :: ·) (encode_append value rest)
  rw [member, List.append_assoc, List.cons_append, encode_append]
  exact congrArg (encode (text name.toList) ++ ·) colon

theorem encode_members (first : String × List Char) (more : List (String × List Char)) :
    encode (List.intercalate [','] ((first :: more).map fun m => member m.1 m.2) ++ ['\x7d']) =
      writeFrom ((first :: more).map fun m => (m.1, encode m.2)) := by
  induction more generalizing first with
  | nil =>
      have alone : List.intercalate [','] ([first].map fun m => member m.1 m.2) = member first.1 first.2 := by
        simp
      rw [alone]
      exact encode_member first.1 first.2 ['\x7d']
  | cons next more ih =>
      have joined : List.intercalate [','] ((first :: next :: more).map fun m => member m.1 m.2) =
          member first.1 first.2 ++ ',' :: List.intercalate [','] ((next :: more).map fun m => member m.1 m.2) := by
        simp
      rw [joined, List.append_assoc, encode_member]
      exact congrArg (fun rest => encode (text first.1.toList) ++ 0x3A :: (encode first.2 ++ 0x2C :: rest))
        (ih next)

/-- An object of texts is written octet by octet as it is written character by character. -/
theorem encode_object (members : List (String × List Char)) :
    encode (object (members.map fun m => member m.1 m.2)) =
      write (members.map fun m => (m.1, encode m.2)) := by
  cases members with
  | nil => rfl
  | cons first more => exact congrArg (0x7B :: ·) (encode_members first more)

/-! ## Reading objects -/

/-- Nothing ends a value that could go on behind a whole one. -/
theorem step_of_isWhole {place : Place} (whole : place.isWhole = true) {b : UInt8}
    (ends : b = 0x3A ∨ b = 0x2C ∨ b = 0x7D) : place.step b = .error .trailing := by
  obtain ⟨spot, frames⟩ := place
  have closed (finished : (finishClosed frames).isOk = true) : stepClosed b frames = .error .trailing := by
    rcases frames with _ | ⟨_ | _, _⟩
    · rcases ends with rfl | rfl | rfl <;> rfl
    · cases finished
    · cases finished
  cases spot with
  | closed => exact closed whole
  | literal rest =>
      cases rest with
      | nil => exact closed whole
      | cons _ _ => cases whole
  | number part =>
      cases part with
      | zero | digits | fraction | exponent =>
          refine Eq.trans ?_ (closed whole)
          rcases ends with rfl | rfl | rfl <;> rfl
      | minus | point | mark | sign => cases whole
  | opened frame => cases frame <;> cases whole
  | value | key | colon | text _ | escape _ | hex _ _ _ => cases whole

theorem delimit_of_run {isEnd : UInt8 → Bool}
    (ends : ∀ b, isEnd b = true → b = 0x3A ∨ b = 0x2C ∨ b = 0x7D) {place : Place} {value : Bytes}
    (run : place.run value = .ok ()) {b : UInt8} (isEnds : isEnd b = true) (rest : Bytes) :
    delimit isEnd place (value ++ b :: rest) = some (value, b :: rest) := by
  induction value generalizing place with
  | nil =>
      have whole : place.isWhole = true := by
        rw [Place.isWhole, show place.finish = .ok () from run]
        rfl
      rw [List.nil_append, delimit, isEnds, whole]
      rfl
  | cons c value ih =>
      rw [Place.run] at run
      rw [List.cons_append, delimit]
      rcases stepped : place.step c with fault | next
      · rw [stepped] at run
        cases run
      · rw [stepped] at run
        have goesOn : ¬ (isEnd c && place.isWhole) = true := by
          intro both
          rw [Bool.and_eq_true] at both
          have fault := step_of_isWhole both.2 (ends c both.1)
          rw [stepped] at fault
          cases fault
        have found := ih run
        rw [if_neg goesOn]
        dsimp only
        rw [found]
        rfl

theorem bare_text (s : List Char) : bare (encode (text s)) = encode (text s) := bare_of_isTrimmed (text_isValue s).isTrimmed

/-- One member of an object is read, and then the others. -/
theorem membersFrom?_of_delimit {s writtenName written value rest : Bytes} {colon mark : UInt8} {name : String}
    (named : delimit endsName .start s = some (writtenName, colon :: written))
    (valued : delimit endsValue .start written = some (value, mark :: rest))
    (read : text? (bare writtenName) = some name) :
    membersFrom? s =
      if mark = 0x2C then (membersFrom? rest).map ((name, bare value) :: ·)
      else if rest.all isBlank then some [(name, bare value)] else none := by
  rw [membersFrom?]
  split
  · rename_i found
    rw [named] at found
    cases found
    split
    · rename_i found
      rw [valued] at found
      cases found
      rw [read]
    · rename_i none
      exact absurd valued (none _ _ _)
  · rename_i none
    exact absurd named (none _ _ _)

/-- The name of a member, its value and what stands behind it are found where they were written. -/
theorem membersFrom?_member (name : String) {value : Bytes} (isValue : Derives .value value) {mark : UInt8}
    (ends : endsValue mark = true) (rest : Bytes) :
    membersFrom? (encode (text name.toList) ++ 0x3A :: (value ++ mark :: rest)) =
      if mark = 0x2C then (membersFrom? rest).map ((name, value) :: ·)
      else if rest.all isBlank then some [(name, value)] else none := by
  have endsAtColon (b : UInt8) (colon : endsName b = true) : b = 0x3A ∨ b = 0x2C ∨ b = 0x7D :=
    .inl (of_decide_eq_true colon)
  have endsAtMark (b : UInt8) (marks : endsValue b = true) : b = 0x3A ∨ b = 0x2C ∨ b = 0x7D := by
    simp only [endsValue, Bool.or_eq_true, decide_eq_true_eq] at marks
    exact .inr marks
  have named := delimit_of_run endsAtColon (text_isValue name.toList).check (show endsName 0x3A = true from rfl)
    (value ++ mark :: rest)
  have valued := delimit_of_run endsAtMark isValue.check ends rest
  have read : text? (bare (encode (text name.toList))) = some name := by rw [bare_text, text?_text]
  rw [membersFrom?_of_delimit named valued read, bare_of_isTrimmed isValue.isTrimmed]

theorem membersFrom?_writeFrom (first : String × Bytes) (more : List (String × Bytes))
    (values : ∀ m ∈ first :: more, Derives .value m.2) {rest : Bytes} (blank : rest.all isBlank = true) :
    membersFrom? (writeFrom (first :: more) ++ rest) = some (first :: more) := by
  induction more generalizing first with
  | nil =>
      have found := membersFrom?_member first.1 (values first (.head _)) (show endsValue 0x7D = true from rfl) rest
      rw [if_neg (by decide), if_pos blank] at found
      rw [writeFrom, List.append_assoc, List.cons_append, List.append_assoc]
      exact found
  | cons next more ih =>
      have further := ih next fun m among => values m (.tail _ among)
      have found := membersFrom?_member first.1 (values first (.head _)) (show endsValue 0x2C = true from rfl)
        (writeFrom (next :: more) ++ rest)
      rw [if_pos rfl, further] at found
      rw [writeFrom, List.append_assoc, List.cons_append, List.append_assoc, List.cons_append]
      exact found

/-- An object, and blanks behind it, is read as the members it was written from. -/
theorem members?_write {members : List (String × Bytes)} (values : ∀ m ∈ members, Derives .value m.2)
    {rest : Bytes} (blank : rest.all isBlank = true) : members? (write members ++ rest) = some members := by
  cases members with
  | nil =>
      change (if rest.all isBlank then some [] else none) = some []
      rw [if_pos blank]
  | cons first more =>
      rw [← membersFrom?_writeFrom first more values blank]
      cases more <;> rfl

/-- White space in front of an object makes no difference. -/
theorem members?_blanks {front : Bytes} (blanks : AreBlanks front) (s : Bytes) :
    members? (front ++ s) = members? s := by
  rw [members?, members?, List.dropWhile_append_of_pos blanks]

/-! ## No controls -/

theorem encode_above {s : List Char} (above : ∀ c ∈ s, 0x20 ≤ c.toNat) {b : UInt8} (among : b ∈ encode s) :
    0x20 ≤ b.toNat := by
  obtain ⟨c, character, octet⟩ := List.mem_flatMap.mp among
  have printable := above c character
  rcases Text.Utf8.toNat_of_mem_encodeChar octet with code | high
  · omega
  · omega

theorem writeFrom_above {members : List (String × Bytes)} (above : ∀ m ∈ members, ∀ b ∈ m.2, 0x20 ≤ b.toNat)
    {b : UInt8} (among : b ∈ writeFrom members) : 0x20 ≤ b.toNat := by
  have named {name : String} (among : b ∈ encode (text name.toList)) : 0x20 ≤ b.toNat :=
    encode_above (fun _ => text_above) among
  fun_induction writeFrom members with
  | case1 =>
      rw [List.mem_singleton.mp among]
      decide
  | case2 name value =>
      rcases List.mem_append.mp among with inName | among
      · exact named inName
      rcases List.mem_cons.mp among with rfl | among
      · decide
      rcases List.mem_append.mp among with inValue | last
      · exact above _ (.head _) b inValue
      · rw [List.mem_singleton.mp last]
        decide
  | case3 name value next more ih =>
      rcases List.mem_append.mp among with inName | among
      · exact named inName
      rcases List.mem_cons.mp among with rfl | among
      · decide
      rcases List.mem_append.mp among with inValue | among
      · exact above _ (.head _) b inValue
      rcases List.mem_cons.mp among with rfl | among
      · decide
      · exact ih (fun m among => above m (.tail _ among)) among

/-- An object has no control in it where no value of it has one. -/
theorem write_above {members : List (String × Bytes)} (above : ∀ m ∈ members, ∀ b ∈ m.2, 0x20 ≤ b.toNat)
    {b : UInt8} (among : b ∈ write members) : 0x20 ≤ b.toNat := by
  rcases List.mem_cons.mp among with rfl | among
  · decide
  · exact writeFrom_above above among

end LdapDecoy.Json
