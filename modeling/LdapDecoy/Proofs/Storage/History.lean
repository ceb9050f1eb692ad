import LdapDecoy.Proofs.Os.Files
import LdapDecoy.Proofs.Storage.Journal
import Mathlib.Data.List.Forall2

/-!
# The history of a journal

A journal together with the file that it writes to. Whatever is done with it, its file holds what it held before and
behind it the entries of the offers that were accepted, each of which is read as what was offered.
-/
namespace LdapDecoy.Storage.Journal
open Text.Utf8 (encode)

/-! ## Entries of offers -/

/-- What an entry says of an offer: it is an object of two members by the rules of JSON, of which one is read as the
key and the other one is the value that the data carries. -/
structure IsEntry (offer : Offer) (octets name value : Bytes) : Prop where
  layout : octets = Text.bytes "\x7b\"key\":" ++ name ++ Text.bytes ",\"interaction\":" ++ value ++ Text.bytes "\x7d"
  isValue : Json.Derives .value octets
  members : Json.members? octets = some [("key", name), ("interaction", value)]
  key : Json.text? name = some offer.key
  carried : Carries offer.data value

theorem Carries.isValue {data value : Bytes} (carries : Carries data value) : Json.Derives .value value := by
  obtain ⟨_, isValue, _, _⟩ := carries
  exact isValue

theorem entry_isEntry {offer : Offer} {value : Bytes} (carries : Carries offer.data value) :
    IsEntry offer (entry offer.key value) (encode (Json.text offer.key.toList)) value where
  layout := by
    have line := line_eq offer.key value
    have back : Text.bytes "\x7d\n" = Text.bytes "\x7d" ++ [0x0A] := by decide
    rw [Journal.line, back, ← List.append_assoc] at line
    exact (List.append_cancel_right line).symm
  isValue := entry_isValue offer.key carries.isValue
  members := members?_entry offer.key carries.isValue
  key := Json.text?_text offer.key
  carried := carries

example : entry "a\"b" (Text.bytes "1e+999") =
    Text.bytes "\x7b\"key\":\"a\\\"b\",\"interaction\":1e+999\x7d" := by decide

/-! ## Sessions -/

/-- What is done with a journal: an offer is added, under a key of either kind, or the file is opened again. -/
inductive Move where
  | add (offer : Offer)
  | reopen

/-- An open journal, and the file tree that its file is in. -/
structure Session where
  tree : Os.Files
  journal : Journal

namespace Session

/-- Opens a journal, and makes its file where it is missing. -/
def open? (tree : Os.Files) (path : String) : Except StorageFault Session :=
  (Journal.open? tree path).map fun journal => ⟨tree.put path journal.content, journal⟩

/-- One move, of which the file is written to where an offer is accepted. -/
def step (session : Session) : Move → Except StorageFault Unit × Session
  | .add offer =>
    match Storage.add offer session.journal with
    | (.error fault, journal) => (.error fault, { session with journal })
    | (.ok (), journal) => (.ok (), ⟨session.tree.put journal.path journal.content, journal⟩)
  | .reopen =>
    match open? session.tree session.journal.path with
    | .error fault => (.error fault, session)
    | .ok next => (.ok (), next)

/-- The moves one after the other, with what came of each. -/
def run (session : Session) : List Move → List (Move × Except StorageFault Unit) × Session
  | [] => ([], session)
  | move :: rest =>
    let (outcome, next) := session.step move
    let (trace, last) := next.run rest
    ((move, outcome) :: trace, last)

/-- The offers that were accepted, in their order. -/
def accepted (trace : List (Move × Except StorageFault Unit)) : List Offer :=
  trace.filterMap fun
    | (.add offer, .ok ()) => some offer
    | _ => none

/-- The session over a file with some content. -/
def holding (tree : Os.Files) (path : String) (content : Bytes) : Session :=
  ⟨tree.put path content, ⟨path, content⟩⟩

section
variable {tree : Os.Files} {path : String} {place : Os.Path} {content : Bytes}

theorem open?_eq (opens : tree.openToAppend path = .ok content) :
    open? tree path = .ok (holding tree path content) := by
  rw [open?, Journal.open?, opens]
  rfl

/-- A file that is opened again holds what it held. -/
theorem step_reopen (admits : tree.Admits path place) :
    (holding tree path content).step .reopen = (.ok (), holding tree path content) := by
  have opens := Os.Files.openToAppend_of_read (admits.read_put content)
  have again : open? (tree.put path content) path = .ok (holding tree path content) := by
    rw [open?_eq opens, holding, admits.put_put, holding]
  simp only [step, holding] at again ⊢
  rw [again]

/-- An offer without a value is refused, and leaves the session as it is. -/
theorem step_refused {offer : Offer} {fault : StorageFault} (refused : value? offer.data = .error fault) :
    (holding tree path content).step (.add offer) = (.error fault, holding tree path content) := by
  have added : Storage.add offer (⟨path, content⟩ : Journal) = (.error fault, ⟨path, content⟩) := by
    change add offer.key offer.data _ = _
    rw [add, refused]
  rw [step, holding, added]

/-- The entry of an offer with a value is appended to the file. -/
theorem step_accepted (admits : tree.Admits path place) {offer : Offer} {value : Bytes}
    (carries : Carries offer.data value) : (holding tree path content).step (.add offer) =
      (.ok (), holding tree path (content ++ (entry offer.key value ++ [0x0A]))) := by
  have added : Storage.add offer (⟨path, content⟩ : Journal) =
      (.ok (), ⟨path, content ++ (entry offer.key value ++ [0x0A])⟩) := by
    change add offer.key offer.data _ = _
    rw [add, value?_eq_ok_iff.mpr carries, ← line_eq]
  rw [step, holding, added]
  simp only [holding, admits.put_put]

/-- Whatever moves are made, the entries of the offers that are accepted stand behind what the file held. -/
theorem run_entries (admits : tree.Admits path place) (content : Bytes) (moves : List Move) :
    ∃ entries, List.Forall₂ (fun offer octets => ∃ value, Carries offer.data value ∧ octets = entry offer.key value)
        (accepted ((holding tree path content).run moves).1) entries ∧
      ((holding tree path content).run moves).2 =
        holding tree path (content ++ entries.flatMap (· ++ [0x0A])) := by
  induction moves generalizing content with
  | nil => exact ⟨[], .nil, by rw [List.flatMap_nil, List.append_nil]; rfl⟩
  | cons move rest ih =>
      cases move with
      | reopen =>
          rw [run, step_reopen admits]
          exact ih content
      | add offer =>
          rcases outcome : value? offer.data with fault | value
          · rw [run, step_refused outcome]
            exact ih content
          · have carries := value?_eq_ok_iff.mp outcome
            obtain ⟨entries, stand, last⟩ := ih (content ++ (entry offer.key value ++ [0x0A]))
            rw [run, step_accepted admits carries]
            refine ⟨entry offer.key value :: entries, .cons ⟨value, carries, rfl⟩ stand, ?_⟩
            rw [List.flatMap_cons]
            exact last.trans (by rw [List.append_assoc])

theorem run_holding (admits : tree.Admits path place) (content : Bytes) (moves : List Move) :
    ∃ entries, List.Forall₂ (fun offer octets => ∃ name value, IsEntry offer octets name value)
        (accepted ((holding tree path content).run moves).1) entries ∧
      ((holding tree path content).run moves).2 =
        holding tree path (content ++ entries.flatMap (· ++ [0x0A])) := by
  obtain ⟨entries, stand, last⟩ := run_entries admits content moves
  refine ⟨entries, stand.imp ?_, last⟩
  rintro offer _ ⟨value, carries, rfl⟩
  exact ⟨_, value, entry_isEntry carries⟩

end

/-- What holds of a session, and of what has come of its moves, over a file that held some octets before. -/
structure Keeps (path : String) (before : Bytes) (trace : List (Move × Except StorageFault Unit))
    (session : Session) : Prop where
  /-- The file holds these octets, and behind them the entries of the accepted offers, each with a newline. -/
  reads : ∃ entries,
    List.Forall₂ (fun offer octets => ∃ name value, IsEntry offer octets name value) (accepted trace) entries ∧
      session.tree.read path = .ok (before ++ entries.flatMap (· ++ [0x0A]))
  reopens : session.step .reopen = (.ok (), session)
  /-- An offer is accepted that carries a value; any other one is refused, and nothing has changed. -/
  answers : ∀ offer, (∃ value, Carries offer.data value) ∧ (session.step (.add offer)).1 = .ok () ∨
    ∃ fault, Refuses offer.data fault ∧ session.step (.add offer) = (.error fault, session)

/-- A file to which offers are added reads as what it held before and the entries of the offers that were accepted. -/
theorem file_after_moves {tree : Os.Files} {path : String} {before : Bytes} (opens : tree.openToAppend path = .ok before)
    (moves : List Move) : ∃ session, open? tree path = .ok session ∧ session.tree.read path = .ok before ∧
      Keeps path before (session.run moves).1 (session.run moves).2 := by
  obtain ⟨place, admits⟩ := Os.Files.admits_of_openToAppend opens
  obtain ⟨entries, stand, last⟩ := run_holding admits before moves
  refine ⟨holding tree path before, open?_eq opens, admits.read_put before, ⟨entries, stand, ?_⟩, ?_, ?_⟩
  · rw [last]
    exact admits.read_put _
  · rw [last]
    exact step_reopen admits
  · intro offer
    rw [last]
    rcases outcome : value? offer.data with fault | value
    · exact .inr ⟨fault, refuses_of_value? outcome, step_refused outcome⟩
    · have carries := value?_eq_ok_iff.mp outcome
      exact .inl ⟨⟨value, carries⟩, congrArg Prod.fst (step_accepted admits carries)⟩

/-- A value is kept with the white space in it, something else is refused, and the file is opened again in between. -/
theorem file_after_moves_reopened :
    let tree := Os.Files.flat [("log.jsonl", Text.bytes "before")]
    let moves := [.add ⟨.correlation, "\"key\"", Text.bytes " \x7b\"a\": 1e+999\x7d\n"⟩,
      .add ⟨.token, "token", Text.bytes "not json"⟩, .reopen, .add ⟨.token, "token", Text.bytes "[1,\n2]\u2003"⟩]
    tree.openToAppend "log.jsonl" = .ok (Text.bytes "before") ∧
      ∃ session, open? tree "log.jsonl" = .ok session ∧ session.tree.read "log.jsonl" = .ok (Text.bytes "before") ∧
        Keeps "log.jsonl" (Text.bytes "before") (session.run moves).1 (session.run moves).2 := by
  intro tree moves
  have plain : Os.IsPlain "log.jsonl" := by decide
  have reads : tree.read "log.jsonl" = .ok (Text.bytes "before") := Os.Files.flat_read plain (by decide)
  have opens := Os.Files.openToAppend_of_read reads
  exact ⟨opens, file_after_moves opens moves⟩

end Session
end LdapDecoy.Storage.Journal
