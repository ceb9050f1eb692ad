import LdapDecoy.Proofs.Acts
import LdapDecoy.Proofs.Record

/-!
# Runs of a recorder

What the calls of a recorder offer to storage, one after the other and each at its own time. A call is one offer of
one record, which can be read back from the data that is offered, and a store that takes every offer of a run is left
with exactly these.
-/
namespace LdapDecoy

/-- Whether an offer is one of a record. -/
def Offer.Holds (offer : Offer) (record : Record) : Prop := offer.data = record.line

namespace Recorder

/-- What a recorder is asked for. -/
inductive Call where
  | identified (identifier : Correlation.Identifier) (request remote : String)
  | unidentified (request remote : String)
  /-- A diagnostic of the server itself. -/
  | internal (message : String)

/-- The record that an offer is made of. -/
def recordOf (recorder : Recorder) (subject : Option Correlation.Identifier) (request remote : String) :
    Record :=
  match subject with
  | some identifier => ⟨identifier.uniqueId, identifier.fullId, request, remote, recorder.time⟩
  | none => ⟨"", "", request, remote, recorder.time⟩

theorem offer_holds (recorder : Recorder) (subject : Option Correlation.Identifier)
    (request remote : String) :
    (recorder.offer subject request remote).Holds (recorder.recordOf subject request remote) := by
  cases subject <;> rfl

theorem submit_taken {τ : Type} [Storage τ] {offer : Offer} {storage : τ}
    (takes : (Storage.add offer storage).1 = .ok ()) :
    (submit offer storage).1 = [.logged captured, .offered offer (.ok ())] := by
  rcases added : Storage.add offer storage with ⟨outcome, behind⟩
  rw [added] at takes
  subst takes
  rw [submit, added]
  rfl

namespace Call

def offer (recorder : Recorder) : Call → Offer
  | identified identifier request remote => recorder.offer (some identifier) request remote
  | unidentified request remote => recorder.offer none request remote
  | internal message => recorder.internal message

variable {τ : Type} [Storage τ]

def make (recorder : Recorder) (call : Call) (storage : τ) : List Act × τ :=
  match call with
  | identified identifier request remote => recorder.record (some identifier) request remote storage
  | unidentified request remote => recorder.record none request remote storage
  | internal message => recorder.recordInternal message storage

/-- Calls one after the other. -/
def makeAll : List (Recorder × Call) → τ → List Act × τ
  | [], storage => ([], storage)
  | (recorder, call) :: calls, storage =>
    let (acts, storage) := call.make recorder storage
    let (more, storage) := makeAll calls storage
    (acts ++ more, storage)

/-- The offers of calls. -/
def offersOf (calls : List (Recorder × Call)) : List Offer := calls.map fun (recorder, call) => call.offer recorder

theorem make_eq (recorder : Recorder) (call : Call) (storage : τ) :
    call.make recorder storage = submit (call.offer recorder) storage := by
  cases call <;> rfl

/-- The record that a call makes. -/
def record (recorder : Recorder) : Call → Record
  | identified identifier request remote => recorder.recordOf (some identifier) request remote
  | unidentified request remote => recorder.recordOf none request remote
  | internal message => recorder.recordOf none message ""

theorem offer_holds_record (recorder : Recorder) (call : Call) :
    (call.offer recorder).Holds (call.record recorder) := by
  cases call with
  | identified identifier request remote => exact recorder.offer_holds (some identifier) request remote
  | unidentified request remote => exact recorder.offer_holds none request remote
  | internal message => exact recorder.offer_holds none message ""

theorem offers_make (recorder : Recorder) (call : Call) (storage : τ) :
    Act.offers (call.make recorder storage).1 = [call.offer recorder] := by
  cases call with
  | identified identifier request remote => exact recorder.offers_record (some identifier) request remote storage
  | unidentified request remote => exact recorder.offers_record none request remote storage
  | internal message => exact recorder.offers_record none message "" storage

/-- What storage is handed in a call is the record of the call, written as one object on a line, from which every text
of the record is read back; and the same data is handed only where the same record is made. -/
theorem make_hands_record (recorder : Recorder) (call : Call) (storage : τ) :
    ∃ offer, Act.offers (call.make recorder storage).1 = [offer] ∧
      (call.record recorder).IsWrittenIn offer.data ∧
      ∀ (other : Recorder) (later : Call),
        (later.offer other).data = offer.data ↔ later.record other = call.record recorder := by
  have holds : (call.offer recorder).data = (call.record recorder).line := call.offer_holds_record recorder
  refine ⟨call.offer recorder, call.offers_make recorder storage, ?_, ?_⟩
  · rw [holds]
    exact (call.record recorder).isWrittenIn_line
  · intro other later
    rw [holds, later.offer_holds_record other]
    exact Record.line_inj

theorem offer_isRecord (recorder : Recorder) (call : Call) : ∃ record, (call.offer recorder).Holds record :=
  ⟨_, call.offer_holds_record recorder⟩

theorem offersOf_areRecords (calls : List (Recorder × Call)) :
    ∀ offer ∈ offersOf calls, ∃ record, offer.Holds record := by
  intro offer among
  obtain ⟨⟨recorder, call⟩, _, rfl⟩ := List.mem_map.mp among
  exact call.offer_isRecord recorder

/-- Calls leave in storage what their offers leave there. -/
theorem storage_makeAll (calls : List (Recorder × Call)) (storage : τ) :
    (makeAll calls storage).2 = Storage.addAll (offersOf calls) storage := by
  induction calls generalizing storage with
  | nil => rfl
  | cons first calls ih =>
      obtain ⟨recorder, call⟩ := first
      have further := ih (call.make recorder storage).2
      rw [make_eq] at further
      rw [makeAll, make_eq]
      exact further

/-- What calls do in a store that takes every offer. -/
def taken (calls : List (Recorder × Call)) : List Act :=
  (offersOf calls).flatMap fun offer => [.logged captured, .offered offer (.ok ())]

theorem acts_makeAll {calls : List (Recorder × Call)}
    (takes : ∀ offer ∈ offersOf calls, ∀ storage : τ, (Storage.add offer storage).1 = .ok ())
    (storage : τ) : (makeAll calls storage).1 = taken calls := by
  induction calls generalizing storage with
  | nil => rfl
  | cons first calls ih =>
      obtain ⟨recorder, call⟩ := first
      have here : (submit (call.offer recorder) storage).1 =
          [.logged captured, .offered (call.offer recorder) (.ok ())] :=
        submit_taken (takes (call.offer recorder) (.head _) storage)
      have further := ih (fun offer among => takes offer (.tail _ among)) (call.make recorder storage).2
      rw [make_eq] at further
      rw [makeAll, make_eq]
      change (submit (call.offer recorder) storage).1 ++ _ = _
      rw [here, further]
      rfl

theorem stored_taken (calls : List (Recorder × Call)) : Act.stored (taken calls) = offersOf calls := by
  unfold taken
  induction offersOf calls with
  | nil => rfl
  | cons offer offers ih => exact congrArg (offer :: ·) ih

end Call

end Recorder

end LdapDecoy
