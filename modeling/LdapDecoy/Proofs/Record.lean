import LdapDecoy.Proofs.Json.Object
import LdapDecoy.Record

/-!
# Records, written and read

A record is written as one JSON object on a line of its own, and is read as the record that was written, whatever
its texts are.
-/
namespace LdapDecoy.Record
open Text.Utf8 (encode)

/-- The names of the members, in order. -/
def names : List String :=
  ["protocol", "unique-id", "full-id", "raw-request", "remote-address", "timestamp"]

/-- The record of the texts of the members, if they are of this protocol. -/
def ofTexts? : List String → Option Record
  | [spoken, uniqueId, fullId, request, remote, time] =>
    if spoken = protocol then some ⟨uniqueId, fullId, request, remote, time⟩ else none
  | _ => none

/-- The record that is written in some data, with the members in their order and no others. -/
def read? (data : Bytes) : Option Record :=
  match Json.members? data with
  | none => none
  | some members =>
    if members.map (·.1) = names then
      match members.mapM fun m => Json.text? m.2 with
      | none => none
      | some texts => ofTexts? texts
    else none

/-- The members with their values as they are written. -/
def written (record : Record) : List (String × Bytes) :=
  record.members.map fun m => (m.1, encode (Json.text m.2.toList))

theorem encode_object (record : Record) : encode record.object = Json.write record.written := by
  have object : record.object =
      Json.object ((record.members.map fun m => (m.1, Json.text m.2.toList)).map fun m => Json.member m.1 m.2) := by
    rw [Record.object, List.map_map]
    rfl
  rw [object, Json.encode_object, List.map_map]
  rfl

theorem written_areValues (record : Record) : ∀ m ∈ record.written, Json.Derives .value m.2 := by
  intro m among
  obtain ⟨member, _, rfl⟩ := List.mem_map.mp among
  exact Json.text_isValue member.2.toList

theorem line_eq (record : Record) : record.line = Json.write record.written ++ [0x0A] := by
  rw [← encode_object]
  exact Text.Utf8.encode_append _ _

/-- The object of a record is one JSON value. -/
theorem object_isValue (record : Record) : Json.Derives .value (encode record.object) := by
  rw [encode_object]
  exact Json.write_isValue record.written_areValues

/-- No octet of it is a control. -/
theorem object_above (record : Record) {b : UInt8} (among : b ∈ encode record.object) : 0x20 ≤ b.toNat := by
  rw [encode_object] at among
  refine Json.write_above ?_ among
  intro m member b octet
  obtain ⟨member, _, rfl⟩ := List.mem_map.mp member
  exact Json.encode_above (fun _ => Json.text_above) octet

theorem texts_written (record : Record) :
    (record.written.mapM fun m => Json.text? m.2) = some (record.members.map (·.2)) := by
  simp only [written, members, List.map_cons, List.map_nil, List.mapM_cons, List.mapM_nil, Json.text?_text]
  rfl

theorem members?_line (record : Record) : Json.members? record.line = some record.written := by
  rw [line_eq]
  exact Json.members?_write record.written_areValues rfl

/-- The line of a record is read as this record. -/
theorem read?_line (record : Record) : read? record.line = some record := by
  have named : record.written.map (·.1) = names := rfl
  rw [read?, members?_line]
  simp only [named, if_true, texts_written]
  rfl

/-- Only one record has a given line. -/
theorem line_inj {record other : Record} : record.line = other.line ↔ record = other := by
  constructor
  · intro same
    have read := congrArg read? same
    rw [read?_line, read?_line] at read
    exact Option.some.inj read
  · intro same
    rw [same]

/-! ## What is written -/

/-- What data is that a record is written in: one object by the rules of JSON and a newline, without a control in the
object; and its members, in this order, are read as the protocol and the texts of the record. -/
structure IsWrittenIn (record : Record) (data : Bytes) : Prop where
  layout : ∃ inside, data = 0x7B :: (inside ++ [0x7D, 0x0A]) ∧ Json.Derives .members inside ∧
    ∀ b ∈ inside, 0x20 ≤ b.toNat
  members : ∃ members, Json.members? data = some members ∧
    members.map (·.1) = ["protocol", "unique-id", "full-id", "raw-request", "remote-address", "timestamp"] ∧
    members.mapM (fun m => Json.text? m.2) =
      some ["ldap", record.uniqueId, record.fullId, record.request, record.remote, record.time]

theorem isWrittenIn_line (record : Record) : record.IsWrittenIn record.line := by
  obtain ⟨inside, written, derives⟩ := Json.writeFrom_derives _ _ record.written_areValues
  have object : encode record.object = 0x7B :: (inside ++ [0x7D]) := by
    rw [encode_object]
    exact congrArg (0x7B :: ·) written
  constructor
  · refine ⟨inside, ?_, derives, ?_⟩
    · rw [line_eq, ← encode_object, object, List.cons_append, List.append_assoc]
      rfl
    · intro b among
      refine record.object_above ?_
      rw [object]
      exact .tail _ (List.mem_append_left _ among)
  · exact ⟨record.written, record.members?_line, rfl, record.texts_written⟩

end LdapDecoy.Record
