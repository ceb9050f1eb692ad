import LdapDecoy.Proofs.Json.Decision
import LdapDecoy.Proofs.Text.Blank
import LdapDecoy.Proofs.Text.Decoding
import LdapDecoy.Storage.Journal

/-!
# The value in the data of an offer

A journal accepts what is UTF-8 and one JSON value, with the white space of JSON in front of it and any white space
behind it. The value is kept octet by octet, and nothing else is accepted.
-/
namespace LdapDecoy

/-! ## White space in octets -/

namespace Json
open Text.Utf8 (encode encodeChar)

/-- A character with an octet that is white space of JSON is this octet, and is white space. -/
theorem isBlank_of_mem_encodeChar {c : Char} {b : UInt8} (among : b ∈ encodeChar c) (blank : isBlank b = true) :
    encodeChar c = [b] ∧ Text.isBlank c = true := by
  have octet : b.toNat = 0x20 ∨ b.toNat = 0x0A ∨ b.toNat = 0x09 ∨ b.toNat = 0x0D := by
    simp only [isBlank, Bool.or_eq_true, decide_eq_true_eq] at blank
    rcases blank with ((rfl | rfl) | rfl) | rfl <;> decide
  have code : b.toNat = c.toNat := by
    rcases Text.Utf8.toNat_of_mem_encodeChar among with code | high
    · exact code
    · omega
  constructor
  · unfold encodeChar
    dsimp only
    rw [if_pos (by omega), ← code, UInt8.ofNat_toNat]
  · have char : c = ' ' ∨ c = '\n' ∨ c = '\t' ∨ c = '\r' := by
      simp only [← Char.toNat_inj, ← code]
      exact octet
    rcases char with rfl | rfl | rfl | rfl <;> decide

/-- A text begins with characters whose octets are white space of JSON, and its octets go on with another one. -/
theorem exists_front (s : List Char) : ∃ front rest, s = front ++ rest ∧ AreBlanks (encode front) ∧
    ∀ b, (encode rest).head? = some b → isBlank b = false := by
  obtain ⟨front, rest, whole, blanks, stops⟩ := exists_span (fun c => (encodeChar c).all isBlank) s
  refine ⟨front, rest, whole, ?_, ?_⟩
  · intro b among
    obtain ⟨c, inFront, octet⟩ := List.mem_flatMap.mp among
    exact List.all_eq_true.mp (blanks c inFront) b octet
  · intro b first
    cases rest with
    | nil => cases first
    | cons c rest =>
        rw [← Bool.not_eq_true]
        intro blank
        have other := stops c rest rfl
        rw [(isBlank_of_mem_encodeChar (Text.Utf8.mem_of_head?_encode first) blank).1] at other
        simp only [List.all_cons, List.all_nil, blank] at other
        cases other

theorem check_blanks {front : Bytes} (blanks : AreBlanks front) (s : Bytes) :
    check (front ++ s) = .ok () ↔ check s = .ok () := accepts_blanks rfl blanks s

/-- A text that does not end with white space does not end with that of JSON. -/
theorem ends_encode {s : List Char} (ends : ∀ c, s.getLast? = some c → Text.isBlank c = false) (b : UInt8)
    (last : (encode s).getLast? = some b) : isBlank b = false := by
  rcases List.eq_nil_or_concat s with rfl | ⟨init, c, rfl⟩
  · cases last
  rw [List.concat_eq_append] at ends last
  rw [← Bool.not_eq_true]
  intro blank
  have white := (isBlank_of_mem_encodeChar (Text.Utf8.mem_of_getLast?_encode last) blank).2
  rw [ends c List.getLast?_concat] at white
  cases white

end Json

/-! ## Values that a journal accepts -/

namespace Storage.Journal
open Text.Utf8 (encode encode_append)

/-- What the data of an offer carries: a value by the rules of JSON, between white space of JSON and any white space
at the end of the data. -/
inductive Carries : Bytes → Bytes → Prop where
  | between {front value back : List Char} (before : Json.AreBlanks (encode front))
      (isValue : Json.Derives .value (encode value))
      (ends : ∀ c, value.getLast? = some c → Text.isBlank c = false)
      (behind : ∀ c ∈ back, Text.isBlank c = true) : Carries (encode (front ++ (value ++ back))) (encode value)

/-- What is accepted is carried. -/
theorem carries_of_value? {data value : Bytes} (accepted : value? data = .ok value) : Carries data value := by
  unfold value? at accepted
  split at accepted
  · cases accepted
  rename_i chars decoded
  obtain ⟨trimmed, back, rfl, trims, behind, ends⟩ := Text.exists_trimEnd chars
  obtain ⟨front, value, rfl, before, begins⟩ := Json.exists_front trimmed
  have kept : (encode (front ++ value)).dropWhile Json.isBlank = encode value := by
    rw [encode_append, List.dropWhile_append_of_pos before, Json.dropWhile_of_head? begins]
  simp only [trims, kept] at accepted
  split at accepted
  · cases accepted
  rename_i checked
  cases accepted
  have solid : ∀ c, value.getLast? = some c → Text.isBlank c = false := by
    intro c last
    exact ends c (List.mem_getLast?_append_of_mem_getLast? last)
  rw [encode_append, Json.check_blanks before] at checked
  rw [Text.Utf8.decode_eq_ok_iff.mp decoded, List.append_assoc]
  exact .between before (Json.isValue_iff.mpr ⟨checked, begins, Json.ends_encode solid⟩) solid behind

/-- What is carried is accepted. -/
theorem value?_of_carries {data value : Bytes} (carries : Carries data value) : value? data = .ok value := by
  obtain @⟨front, value, back, before, isValue, ends, behind⟩ := carries
  have full : value ≠ [] := by
    rintro rfl
    cases isValue.check
  have solid : ∀ c, (front ++ value).getLast? = some c → Text.isBlank c = false := by
    rw [List.getLast?_append_of_ne_nil _ full]
    exact ends
  have trims : Text.trimEnd (front ++ (value ++ back)) = front ++ value := by
    rw [← List.append_assoc]
    exact Text.trimEnd_append solid behind
  have checked : Json.check (encode (front ++ value)) = .ok () := by
    rw [encode_append, Json.check_blanks before]
    exact isValue.check
  rw [value?, Text.Utf8.decode_encode]
  simp only [trims, checked]
  rw [encode_append, List.dropWhile_append_of_pos before, Json.dropWhile_of_head? isValue.isTrimmed.1]

/-- A journal accepts the data that carries a value, which is what it keeps. -/
theorem value?_eq_ok_iff {data value : Bytes} : value? data = .ok value ↔ Carries data value :=
  ⟨carries_of_value?, value?_of_carries⟩

/-- Why data is refused: it is no text, or a text that carries no value. -/
inductive Refuses (data : Bytes) : StorageFault → Prop where
  | notText {reason : String} (spells : ∀ chars, data ≠ encode chars) : Refuses data (.unavailable reason)
  | notValue {fault : Json.Fault} {chars : List Char} (spells : data = encode chars)
      (carries : ∀ value, ¬ Carries data value) : Refuses data (.encode fault)

theorem refuses_of_value? {data : Bytes} {fault : StorageFault} (refused : value? data = .error fault) :
    Refuses data fault := by
  have carries (value : Bytes) : ¬ Carries data value := by
    intro carried
    cases refused.symm.trans (value?_eq_ok_iff.mpr carried)
  unfold value? at refused
  split at refused
  · rename_i fault undecoded
    cases refused
    refine .notText fun chars spells => ?_
    cases undecoded.symm.trans (Text.Utf8.decode_eq_ok_iff.mpr spells)
  · rename_i chars decoded
    dsimp only at refused
    split at refused
    · cases refused
      exact .notValue (Text.Utf8.decode_eq_ok_iff.mp decoded) carries
    · cases refused

/-! ## What a journal answers -/

/-- Whether octets are one value by the rules of JSON, with white space of JSON in front of it and nothing behind it. -/
def IsOneValue (octets : Bytes) : Prop :=
  ∃ front value, octets = front ++ value ∧ Json.AreBlanks front ∧ Json.Derives .value value

/-- The scan of a text without the white space at its end decides whether it is one value. -/
theorem check_trimEnd_iff (chars : List Char) :
    Json.check (encode (Text.trimEnd chars)) = .ok () ↔ IsOneValue (encode (Text.trimEnd chars)) := by
  obtain ⟨kept, _, _, trims, _, ends⟩ := Text.exists_trimEnd chars
  rw [trims]
  exact Json.check_eq_ok_iff_of_getLast? (Json.ends_encode ends)

/-- Octets are read as one text at most. -/
theorem exists_text_iff {data : Bytes} {chars : List Char} (decoded : Text.Utf8.decode data = .ok chars)
    (holds : List Char → Prop) : (∃ text, data = encode text ∧ holds text) ↔ holds chars := by
  constructor
  · rintro ⟨text, spells, held⟩
    cases decoded.symm.trans (Text.Utf8.decode_eq_ok_iff.mpr spells)
    exact held
  · intro held
    exact ⟨chars, Text.Utf8.decode_eq_ok_iff.mp decoded, held⟩

section
variable {offer : Offer} {chars : List Char}

theorem add_of_undecoded {fault : Text.Utf8.Fault} (undecoded : Text.Utf8.decode offer.data = .error fault)
    (journal : Journal) :
    (Storage.add offer journal).1 = .error (.unavailable ("record is not utf-8: " ++ fault.message)) := by
  change (journal.add offer.key offer.data).1 = _
  rw [add, value?, undecoded]

theorem add_of_unchecked {fault : Json.Fault} (decoded : Text.Utf8.decode offer.data = .ok chars)
    (unchecked : Json.check (encode (Text.trimEnd chars)) = .error fault) (journal : Journal) :
    (Storage.add offer journal).1 = .error (.encode fault) := by
  change (journal.add offer.key offer.data).1 = _
  simp only [add, value?, decoded, unchecked]

theorem add_of_checked (decoded : Text.Utf8.decode offer.data = .ok chars)
    (checked : Json.check (encode (Text.trimEnd chars)) = .ok ()) (journal : Journal) :
    (Storage.add offer journal).1 = .ok () := by
  change (journal.add offer.key offer.data).1 = _
  simp only [add, value?, decoded, checked]

end

/-- Data is accepted that is UTF-8 and, without the white space of Unicode at its end, one value with white space of
JSON in front of it. Data that is not UTF-8 is refused as no text, and all other data as no value. -/
theorem add_answers (offer : Offer) (journal : Journal) :
    ((Storage.add offer journal).1 = .ok () ↔
      ∃ chars, offer.data = encode chars ∧ IsOneValue (encode (Text.trimEnd chars))) ∧
    ((∃ fault : Text.Utf8.Fault,
        (Storage.add offer journal).1 = .error (.unavailable ("record is not utf-8: " ++ fault.message))) ↔
      ∀ chars, offer.data ≠ encode chars) ∧
    ((∃ fault, (Storage.add offer journal).1 = .error (.encode fault)) ↔
      ∃ chars, offer.data = encode chars ∧ ¬ IsOneValue (encode (Text.trimEnd chars))) := by
  rcases decoded : Text.Utf8.decode offer.data with fault | chars
  · have unread (chars : List Char) : offer.data ≠ encode chars := by
      intro spells
      cases decoded.symm.trans (Text.Utf8.decode_eq_ok_iff.mpr spells)
    rw [add_of_undecoded decoded]
    refine ⟨⟨nofun, ?_⟩, ⟨fun _ => unread, fun _ => ⟨fault, rfl⟩⟩, ⟨nofun, ?_⟩⟩
    · rintro ⟨chars, spells, _⟩
      exact absurd spells (unread chars)
    · rintro ⟨chars, spells, _⟩
      exact absurd spells (unread chars)
  · have read : ¬ ∀ chars, offer.data ≠ encode chars := by
      intro unread
      exact unread chars (Text.Utf8.decode_eq_ok_iff.mp decoded)
    rw [exists_text_iff decoded fun text => IsOneValue (encode (Text.trimEnd text)),
      exists_text_iff decoded fun text => ¬ IsOneValue (encode (Text.trimEnd text)), ← check_trimEnd_iff]
    rcases checked : Json.check (encode (Text.trimEnd chars)) with fault | _
    · rw [add_of_unchecked decoded checked]
      exact ⟨⟨nofun, nofun⟩, ⟨nofun, fun unread => absurd unread read⟩, ⟨fun _ => nofun, fun _ => ⟨fault, rfl⟩⟩⟩
    · rw [add_of_checked decoded checked]
      exact ⟨⟨fun _ => rfl, fun _ => rfl⟩, ⟨nofun, fun unread => absurd unread read⟩,
        ⟨nofun, fun refused => absurd rfl refused⟩⟩

/-- Lone surrogates, numbers of any size and white space around a value are taken, and a comma behind the last element
is not. -/
example : (Json.check (Text.bytes " [\"\\ud800\", -0.5e+999,\n[[]] ]"),
    Json.check (Text.bytes "[1,]")) = (.ok (), .error .noValue) := by decide

end Storage.Journal

end LdapDecoy
