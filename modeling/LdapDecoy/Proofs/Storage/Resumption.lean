import LdapDecoy.Proofs.Json.Fragment
import LdapDecoy.Proofs.Storage.Lines

/-!
# Records behind what was there

What becomes of the records that are written to a file which is not empty, and which is opened again from time to time.
Only what stands behind the last newline when it is opened first can spoil a record, and it spoils only the first one.
-/
namespace LdapDecoy.Storage.Journal

/-- Whether a line by itself is read as the entry of an offer: it is one JSON text, and an object of a key and an
interaction and nothing else, which are those of the offer. -/
structure Stands (offer : Offer) (line : Bytes) : Prop where
  isText : Json.Derives .element line
  reads : ∃ name value, Json.members? line = some [("key", name), ("interaction", value)] ∧
    Json.text? name = some offer.key ∧ value ++ [0x0A] = offer.data

/-- An entry begins with the name of its key. -/
theorem entry_begins (key : String) (value : Bytes) : ∃ rest, entry key value = 0x7B :: 0x22 :: 0x6B :: rest :=
  ⟨_, rfl⟩

section
variable {offer : Offer} {record : Record}

/-- The entry of a record ends a JSON text where white space is in front of it, and no other text. -/
theorem check_front_iff (holds : offer.Holds record) (front : Bytes) :
    Json.check (front ++ entryOf offer) = .ok () ↔ Json.AreBlanks front := by
  obtain ⟨_, value⟩ := data_of_holds holds
  have isValue : Json.Derives .value (entryOf offer) := by
    rw [entryOf, value]
    exact entry_isValue offer.key record.object_isValue
  obtain ⟨rest, begins⟩ := entry_begins offer.key offer.data.dropLast
  rw [entryOf, begins] at isValue ⊢
  exact Json.check_behind_iff rfl isValue

/-- So it is read where white space is in front of it, and nowhere else. -/
theorem stands_iff (holds : offer.Holds record) (front : Bytes) :
    Stands offer (front ++ entryOf offer) ↔ Json.AreBlanks front := by
  have checks := check_front_iff holds front
  constructor
  · intro stands
    exact checks.mp (Json.check_eq_ok_iff.mpr stands.isText)
  · intro blanks
    obtain ⟨data, value⟩ := data_of_holds holds
    obtain ⟨_, members⟩ := members?_entryOf holds
    refine ⟨Json.check_eq_ok_iff.mp (checks.mpr blanks), _, offer.data.dropLast, ?_, Json.text?_text offer.key, ?_⟩
    · rw [Json.members?_blanks blanks, members]
    · rw [value, data]

end

namespace Session

instance : Storage Session where
  add offer session := session.step (.add offer)

/-- What happens to a session that a recorder writes to: the recorder is called, or the file is opened again. -/
inductive Use where
  | call (recorder : Recorder) (call : Recorder.Call)
  | reopen

/-- Uses one after the other. -/
def useAll : List Use → Session → List Act × Session
  | [], session => ([], session)
  | .call recorder call :: uses, session =>
    let (acts, session) := call.make recorder session
    let (more, session) := useAll uses session
    (acts ++ more, session)
  | .reopen :: uses, session => useAll uses (session.step .reopen).2

/-- The offers of the calls among some uses. -/
def offersOf (uses : List Use) : List Offer :=
  uses.filterMap fun
    | .call recorder call => some (call.offer recorder)
    | .reopen => none

theorem offersOf_areRecords (uses : List Use) : ∀ offer ∈ offersOf uses, ∃ record, offer.Holds record := by
  intro offer among
  obtain ⟨use, _, made⟩ := List.mem_filterMap.mp among
  cases use with
  | call recorder call =>
      cases made
      exact call.offer_isRecord recorder
  | reopen => cases made

section
variable {tree : Os.Files} {path : String} {place : Os.Path}

/-- A call writes its entry and is not refused. -/
theorem make_holding (admits : tree.Admits path place) (content : Bytes) (recorder : Recorder) (call : Recorder.Call) :
    call.make recorder (holding tree path content) =
      ([.logged Recorder.captured, .offered (call.offer recorder) (.ok ())],
        holding tree path (content ++ (entryOf (call.offer recorder) ++ [0x0A]))) := by
  obtain ⟨record, holds⟩ := call.offer_isRecord recorder
  obtain ⟨_, value⟩ := data_of_holds holds
  have carries : Carries (call.offer recorder).data (call.offer recorder).data.dropLast := by
    rw [value]
    exact value?_eq_ok_iff.mp (holds ▸ value?_line record)
  have added : Storage.add (call.offer recorder) (holding tree path content) =
      (.ok (), holding tree path (content ++ (entryOf (call.offer recorder) ++ [0x0A]))) :=
    step_accepted admits carries
  rw [Recorder.Call.make_eq, Recorder.submit, added]
  rfl

theorem useAll_holding (admits : tree.Admits path place) (content : Bytes) (uses : List Use) :
    Act.stored (useAll uses (holding tree path content)).1 = offersOf uses ∧
      (useAll uses (holding tree path content)).2 =
        holding tree path (content ++ ((offersOf uses).map entryOf).flatMap (· ++ [0x0A])) := by
  induction uses generalizing content with
  | nil => exact ⟨rfl, by rw [offersOf, List.filterMap_nil, List.map_nil, List.flatMap_nil, List.append_nil]; rfl⟩
  | cons use uses ih =>
      cases use with
      | reopen =>
          rw [useAll, step_reopen admits]
          exact ih content
      | call recorder call =>
          obtain ⟨stored, last⟩ := ih (content ++ (entryOf (call.offer recorder) ++ [0x0A]))
          rw [useAll, make_holding admits]
          refine ⟨congrArg (call.offer recorder :: ·) stored, last.trans ?_⟩
          rw [List.append_assoc]
          rfl

end

theorem entries_stand {offers : List Offer} (records : ∀ offer ∈ offers, ∃ record, offer.Holds record) :
    List.Forall₂ Stands offers (offers.map entryOf) := by
  refine List.forall₂_map_right_iff.mpr (List.forall₂_same.mpr fun offer among => ?_)
  obtain ⟨record, holds⟩ := records offer among
  exact (stands_iff holds []).mpr Json.areBlanks_nil

/-- The lines of a file behind which records were written: the first one goes on with what was not ended. -/
theorem lines_of_records (before : Bytes) {first : Offer} {others : List Offer}
    (records : ∀ offer ∈ first :: others, ∃ record, offer.Holds record) :
    Text.lines (before ++ ((first :: others).map entryOf).flatMap (· ++ [0x0A])) =
      Text.finished before ++ (Text.unfinished before ++ entryOf first) :: others.map entryOf := by
  refine Text.lines_behind before ?_
  intro entry among
  obtain ⟨offer, inOffers, rfl⟩ := List.mem_map.mp (List.map_cons ▸ among)
  obtain ⟨record, holds⟩ := records offer inOffers
  exact entryOf_single holds

/-- Where a file did not end within a line, or white space alone was on it, every record that is written stands on a
line of its own. Where it did, the first record is lost, which is no JSON text together with what was on the line, and
every other one stands on a line of its own. -/
theorem records_stand {tree : Os.Files} {path : String} {before : Bytes} (opens : tree.openToAppend path = .ok before)
    (uses : List Use) :
    ∃ session content, open? tree path = .ok session ∧ Act.stored (useAll uses session).1 = offersOf uses ∧
      (useAll uses session).2.tree.read path = .ok content ∧
      (Json.AreBlanks (Text.unfinished before) →
        ∃ new, new <:+ Text.lines content ∧ List.Forall₂ Stands (offersOf uses) new) ∧
      (¬ Json.AreBlanks (Text.unfinished before) → ∀ first others, offersOf uses = first :: others →
        ∃ line new, line :: new <:+ Text.lines content ∧ Json.check line ≠ .ok () ∧
          List.Forall₂ Stands others new) := by
  obtain ⟨place, admits⟩ := Os.Files.admits_of_openToAppend opens
  obtain ⟨stored, last⟩ := useAll_holding admits before uses
  have records := offersOf_areRecords uses
  refine ⟨holding tree path before, before ++ ((offersOf uses).map entryOf).flatMap (· ++ [0x0A]), open?_eq opens,
    stored, ?_, ?_, ?_⟩
  · rw [last]
    exact admits.read_put _
  · intro blanks
    rcases made : offersOf uses with _ | ⟨first, others⟩
    · exact ⟨[], List.nil_suffix, .nil⟩
    rw [made] at records
    obtain ⟨record, holds⟩ := records first (.head _)
    refine ⟨(Text.unfinished before ++ entryOf first) :: others.map entryOf, ?_, .cons ?_ ?_⟩
    · rw [lines_of_records before records]
      exact List.suffix_append _ _
    · exact (stands_iff holds _).mpr blanks
    · exact entries_stand fun offer among => records offer (.tail _ among)
  · intro cut first others made
    rw [made] at records ⊢
    obtain ⟨record, holds⟩ := records first (.head _)
    refine ⟨Text.unfinished before ++ entryOf first, others.map entryOf, ?_, ?_, ?_⟩
    · rw [lines_of_records before records]
      exact List.suffix_append _ _
    · exact fun checked => cut ((check_front_iff holds _).mp checked)
    · exact entries_stand fun offer among => records offer (.tail _ among)

/-- Two records, and the file opened again between them, behind a blank that was left on a line and behind an entry that
was cut short. -/
theorem records_stand_reopened :
    let tree := Os.Files.flat [("whole.jsonl", Text.bytes "[]\n "), ("cut.jsonl", Text.bytes "[]\n\x7b\"key\":\"to")]
    let recorder : Recorder := ⟨"token", "2026-11-20T07:00:00Z"⟩
    let uses := [.call recorder (.internal "LDAP client 192.0.2.1:1389 connected"), .reopen,
      .call recorder (.identified ⟨"c59e3crp82ke7bcnedq0cfjqdpeyyyyyy", "c59e3crp82ke7bcnedq0cfjqdpeyyyyyy"⟩ "\n" "")]
    (tree.openToAppend "whole.jsonl" = .ok (Text.bytes "[]\n ") ∧
      Json.AreBlanks (Text.unfinished (Text.bytes "[]\n ")) ∧
      ∃ session content, open? tree "whole.jsonl" = .ok session ∧
        (useAll uses session).2.tree.read "whole.jsonl" = .ok content ∧
        ∃ new, new <:+ Text.lines content ∧ List.Forall₂ Stands (offersOf uses) new) ∧
    (tree.openToAppend "cut.jsonl" = .ok (Text.bytes "[]\n\x7b\"key\":\"to") ∧
      ¬ Json.AreBlanks (Text.unfinished (Text.bytes "[]\n\x7b\"key\":\"to")) ∧
      ∃ session content, open? tree "cut.jsonl" = .ok session ∧
        (useAll uses session).2.tree.read "cut.jsonl" = .ok content ∧
        ∃ line new, line :: new <:+ Text.lines content ∧ Json.check line ≠ .ok () ∧
          List.Forall₂ Stands (offersOf uses).tail new) := by
  intro tree recorder uses
  have whole : tree.openToAppend "whole.jsonl" = .ok (Text.bytes "[]\n ") :=
    Os.Files.openToAppend_of_read (Os.Files.flat_read (by decide) (by decide))
  have cut : tree.openToAppend "cut.jsonl" = .ok (Text.bytes "[]\n\x7b\"key\":\"to") :=
    Os.Files.openToAppend_of_read (Os.Files.flat_read (by decide) (by decide))
  have blank : Json.AreBlanks (Text.unfinished (Text.bytes "[]\n ")) := List.all_eq_true.mp (by decide)
  have begun : ¬ Json.AreBlanks (Text.unfinished (Text.bytes "[]\n\x7b\"key\":\"to")) := by
    intro blanks
    exact absurd (blanks 0x7B (by decide)) (by decide)
  obtain ⟨session, content, opens, _, reads, stand, _⟩ := records_stand whole uses
  obtain ⟨session', content', opens', _, reads', _, lost⟩ := records_stand cut uses
  exact ⟨⟨whole, blank, session, content, opens, reads, stand blank⟩,
    cut, begun, session', content', opens', reads', lost begun _ _ rfl⟩

/-- Behind an entry that was cut short a record is accepted, and no line of the file is read as its entry. -/
theorem record_lost_behind_cut :
    let before := Text.bytes "\x7b\"key\":\"to"
    let tree := Os.Files.flat [("log.jsonl", before)]
    let recorder : Recorder := ⟨"token", "2026-11-20T07:00:00Z"⟩
    let call : Recorder.Call := .internal "LDAP client 192.0.2.1:1389 connected"
    ∃ session content, open? tree "log.jsonl" = .ok session ∧
      Act.stored (useAll [.call recorder call] session).1 = [call.offer recorder] ∧
      (useAll [.call recorder call] session).2.tree.read "log.jsonl" = .ok content ∧
      (Text.lines content).length = 1 ∧ ∀ line ∈ Text.lines content, ¬ Stands (call.offer recorder) line := by
  intro before tree recorder call
  have opens : tree.openToAppend "log.jsonl" = .ok before :=
    Os.Files.openToAppend_of_read (Os.Files.flat_read (by decide) rfl)
  obtain ⟨place, admits⟩ := Os.Files.admits_of_openToAppend opens
  obtain ⟨stored, last⟩ := useAll_holding admits before [.call recorder call]
  have holds := call.offer_holds_record recorder
  have unfinished : Text.unfinished before = before := by decide
  have finished : Text.finished before = [] := by decide
  have lines := lines_of_records before fun offer among => ⟨call.record recorder, by
    rw [List.mem_singleton.mp among]
    exact holds⟩
  rw [finished, unfinished, List.map_nil, List.nil_append] at lines
  refine ⟨holding tree "log.jsonl" before, _, open?_eq opens, stored, ?_, congrArg List.length lines, ?_⟩
  · rw [last]
    exact admits.read_put _
  · intro line among stands
    rw [lines] at among
    rw [List.mem_singleton.mp among] at stands
    have blanks := (stands_iff holds before).mp stands
    exact absurd (blanks 0x7B (by decide)) (by decide)

end Session
end LdapDecoy.Storage.Journal
