import LdapDecoy.Proofs.Record
import LdapDecoy.Proofs.Recorder
import LdapDecoy.Proofs.Storage.Value

/-!
# What a journal holds

Each entry of a journal is a JSON object on a line of its own, which is read as the key and the record that were
added, and no record is ever refused.
-/
namespace LdapDecoy

/-! ## Lines -/

namespace Text

/-- A newline ends the first line. -/
theorem lines_newline {line : Bytes} (single : ∀ b ∈ line, b ≠ 0x0A) (rest : Bytes) :
    lines (line ++ 0x0A :: rest) = line :: lines rest := by
  induction line with
  | nil => rfl
  | cons b line ih =>
      have other : ¬ b = 0x0A := single b (.head _)
      have further := ih fun c among => single c (.tail _ among)
      rw [List.cons_append, lines, if_neg other, further]

/-- Lines that are ended come first. -/
theorem lines_flatMap_append {entries : List Bytes} (single : ∀ entry ∈ entries, ∀ b ∈ entry, b ≠ 0x0A)
    (rest : Bytes) : lines (entries.flatMap (· ++ [0x0A]) ++ rest) = entries ++ lines rest := by
  induction entries with
  | nil => rfl
  | cons entry entries ih =>
      rw [List.flatMap_cons, List.append_assoc, List.append_assoc, List.singleton_append,
        lines_newline (single entry (.head _)), ih fun later among => single later (.tail _ among)]
      rfl

theorem lines_flatMap {entries : List Bytes} (single : ∀ entry ∈ entries, ∀ b ∈ entry, b ≠ 0x0A) :
    lines (entries.flatMap (· ++ [0x0A])) = entries := by
  have all := lines_flatMap_append single []
  rw [List.append_nil, lines, List.append_nil] at all
  exact all

end Text

namespace Storage.Journal
open Text.Utf8 (encode)

/-! ## Entries -/

/-- The object of an entry. -/
def entry (key : String) (value : Bytes) : Bytes :=
  Json.write [("key", encode (Json.text key.toList)), ("interaction", value)]

theorem line_eq (key : String) (value : Bytes) : line key value = entry key value ++ [0x0A] := by
  have front : Text.bytes "\x7b\"key\":" = 0x7B :: (encode (Json.text "key".toList) ++ [0x3A]) := by decide
  have middle : Text.bytes ",\"interaction\":" =
      0x2C :: (encode (Json.text "interaction".toList) ++ [0x3A]) := by decide
  have back : Text.bytes "\x7d\n" = [0x7D, 0x0A] := by decide
  rw [line, entry, front, middle, back]
  simp only [Json.write, Json.writeFrom, List.append_assoc, List.cons_append, List.nil_append]

/-- The key of an entry and its value as it is written, if a line is one. -/
def filed? (line : Bytes) : Option (String × Bytes) :=
  match Json.members? line with
  | some [("key", key), ("interaction", value)] => (Json.text? key).map (·, value)
  | _ => none

theorem members_areValues (key : String) {value : Bytes} (isValue : Json.Derives .value value) :
    ∀ m ∈ [("key", encode (Json.text key.toList)), ("interaction", value)], Json.Derives .value m.2 := by
  intro m among
  rcases among with _ | ⟨_, _ | ⟨_, ⟨⟩⟩⟩
  · exact Json.text_isValue key.toList
  · exact isValue

/-- An entry is one JSON value, whatever its value is. -/
theorem entry_isValue (key : String) {value : Bytes} (isValue : Json.Derives .value value) :
    Json.Derives .value (entry key value) :=
  Json.write_isValue (members_areValues key isValue)

theorem members?_entry (key : String) {value : Bytes} (isValue : Json.Derives .value value) :
    Json.members? (entry key value) =
      some [("key", encode (Json.text key.toList)), ("interaction", value)] := by
  have read := Json.members?_write (members_areValues key isValue)
    (show ([] : Bytes).all Json.isBlank = true from rfl)
  rw [List.append_nil] at read
  exact read

theorem filed?_entry (key : String) {value : Bytes} (isValue : Json.Derives .value value) :
    filed? (entry key value) = some (key, value) := by
  rw [filed?, members?_entry key isValue]
  simp only [Json.text?_text, Option.map_some]

/-! ## Records in a journal -/

/-- The value in the line of a record is its object. -/
theorem value?_line (record : Record) : value? record.line = .ok (encode record.object) := by
  have ends : ∀ c, record.object.getLast? = some c → Text.isBlank c = false := by
    intro c last
    have brace : record.object.getLast? = some '\x7d' :=
      List.getLast?_concat (l := '\x7b' :: List.intercalate [','] _)
    cases brace.symm.trans last
    decide
  have none : Json.AreBlanks (encode []) := Json.areBlanks_nil
  have newline : ∀ c ∈ ['\n'], Text.isBlank c = true := List.forall_mem_singleton.mpr rfl
  have carries : Carries record.line (encode record.object) := .between none record.object_isValue ends newline
  exact value?_eq_ok_iff.mpr carries

/-- The entry of an offer of a record: its data without the newline at the end. -/
def entryOf (offer : Offer) : Bytes := entry offer.key offer.data.dropLast

theorem data_of_holds {offer : Offer} {record : Record} (holds : offer.Holds record) :
    offer.data = encode record.object ++ [0x0A] ∧ offer.data.dropLast = encode record.object := by
  have data : offer.data = encode record.object ++ [0x0A] := holds.trans (Text.Utf8.encode_append _ _)
  exact ⟨data, by rw [data, List.dropLast_concat]⟩

/-- A journal takes every record, on a line behind the others. -/
theorem add_of_holds {offer : Offer} {record : Record} (holds : offer.Holds record) (journal : Journal) :
    Storage.add offer journal =
      (.ok (), { journal with content := journal.content ++ (entryOf offer ++ [0x0A]) }) := by
  obtain ⟨_, value⟩ := data_of_holds holds
  change journal.add offer.key offer.data = _
  rw [add, show value? offer.data = .ok (encode record.object) from holds ▸ value?_line record, entryOf, value,
    ← line_eq]

theorem content_addAll {offers : List Offer} (records : ∀ offer ∈ offers, ∃ record, offer.Holds record)
    (journal : Journal) :
    (Storage.addAll offers journal).content =
      journal.content ++ offers.flatMap fun offer => entryOf offer ++ [0x0A] := by
  induction offers generalizing journal with
  | nil => exact (List.append_nil _).symm
  | cons offer rest ih =>
      obtain ⟨record, holds⟩ := records offer (.head _)
      change (Storage.addAll rest (Storage.add offer journal).2).content = _
      rw [add_of_holds holds, ih fun later among => records later (.tail _ among), List.flatMap_cons,
        List.append_assoc]

/-- The entry of a record has no newline in it. -/
theorem entryOf_single {offer : Offer} {record : Record} (holds : offer.Holds record) :
    ∀ b ∈ entryOf offer, b ≠ 0x0A := by
  obtain ⟨_, value⟩ := data_of_holds holds
  intro b among newline
  have printable : 0x20 ≤ b.toNat := by
    refine Json.write_above ?_ among
    rw [value]
    intro m member octet inValue
    rcases member with _ | ⟨_, _ | ⟨_, ⟨⟩⟩⟩
    · exact Json.encode_above (fun _ => Json.text_above) inValue
    · exact record.object_above inValue
  rw [newline] at printable
  exact absurd printable (by decide)

/-- An empty journal has a line for each record that is added, with its entry. -/
theorem lines_addAll {offers : List Offer} (records : ∀ offer ∈ offers, ∃ record, offer.Holds record)
    (path : String) : (Storage.addAll offers (⟨path, []⟩ : Journal)).lines = offers.map entryOf := by
  have single : ∀ entry ∈ offers.map entryOf, ∀ b ∈ entry, b ≠ 0x0A := by
    intro entry among
    obtain ⟨offer, inOffers, rfl⟩ := List.mem_map.mp among
    obtain ⟨record, holds⟩ := records offer inOffers
    exact entryOf_single holds
  have content := content_addAll records ⟨path, []⟩
  rw [List.nil_append] at content
  rw [lines, content, ← Text.lines_flatMap single, List.flatMap_map]

/-- The line of an offer is one JSON value, an object of a key and an interaction. -/
theorem members?_entryOf {offer : Offer} {record : Record} (holds : offer.Holds record) :
    Json.check (entryOf offer) = .ok () ∧
      Json.members? (entryOf offer) =
        some [("key", encode (Json.text offer.key.toList)), ("interaction", offer.data.dropLast)] := by
  obtain ⟨_, value⟩ := data_of_holds holds
  rw [entryOf, value]
  exact ⟨(entry_isValue offer.key record.object_isValue).check, members?_entry offer.key record.object_isValue⟩

theorem filed?_entryOf {offer : Offer} {record : Record} (holds : offer.Holds record) :
    filed? (entryOf offer) = some (offer.key, offer.data.dropLast) := by
  obtain ⟨_, value⟩ := data_of_holds holds
  rw [entryOf, value]
  exact filed?_entry offer.key record.object_isValue

end Storage.Journal

end LdapDecoy
