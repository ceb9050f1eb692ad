import LdapDecoy.Recorder
import LdapDecoy.Responder.Run

/-!
# What acts show

The replies and the offers among acts that follow each other. A record is one offer and no reply, whatever
storage answers, and storage is called with the offers and with nothing else.
-/
namespace LdapDecoy

namespace Act

@[simp] theorem replies_append (acts more : List Act) :
    replies (acts ++ more) = replies acts ++ replies more :=
  List.filterMap_append

@[simp] theorem offers_append (acts more : List Act) : offers (acts ++ more) = offers acts ++ offers more :=
  List.filterMap_append

@[simp] theorem replies_map_logged (events : List Event) : replies (events.map .logged) = [] := by
  induction events with
  | nil => rfl
  | cons event rest ih => exact ih

@[simp] theorem offers_map_logged (events : List Event) : offers (events.map .logged) = [] := by
  induction events with
  | nil => rfl
  | cons event rest ih => exact ih

/-- Whether acts divide into some without an offer and, behind them, some without a reply. -/
def RepliesFirst (acts : List Act) : Prop :=
  ∃ front back, acts = front ++ back ∧ offers front = [] ∧ replies back = []

theorem RepliesFirst.after {acts more : List Act} (first : RepliesFirst acts) (none : offers more = []) :
    RepliesFirst (more ++ acts) := by
  obtain ⟨front, back, rfl, unoffered, unanswered⟩ := first
  refine ⟨more ++ front, back, (List.append_assoc _ _ _).symm, ?_, unanswered⟩
  rw [offers_append, none, unoffered]
  rfl

end Act

/-- Storage after some offers. -/
def Storage.addAll {τ : Type} [Storage τ] (offers : List Offer) (storage : τ) : τ :=
  offers.foldl (fun storage offer => (Storage.add offer storage).2) storage

theorem Storage.addAll_append {τ : Type} [Storage τ] (offers more : List Offer) (storage : τ) :
    Storage.addAll (offers ++ more) storage = Storage.addAll more (Storage.addAll offers storage) :=
  List.foldl_append

namespace Recorder

variable {τ : Type} [Storage τ]

/-- A record is logged and offered once, and what storage answers shows in the log alone. -/
theorem record_eq (recorder : Recorder) (subject : Option Correlation.Identifier)
    (request remote : String) (storage : τ) :
    recorder.record subject request remote storage =
      (.logged captured ::
          .offered (recorder.offer subject request remote)
            (Storage.add (recorder.offer subject request remote) storage).1 ::
          aftermath (Storage.add (recorder.offer subject request remote) storage).1,
        (Storage.add (recorder.offer subject request remote) storage).2) := rfl

@[simp] theorem replies_record (recorder : Recorder) (subject : Option Correlation.Identifier)
    (request remote : String) (storage : τ) :
    Act.replies (recorder.record subject request remote storage).1 = [] := by
  rw [record_eq]
  cases (Storage.add (recorder.offer subject request remote) storage).1 <;> rfl

@[simp] theorem offers_record (recorder : Recorder) (subject : Option Correlation.Identifier)
    (request remote : String) (storage : τ) :
    Act.offers (recorder.record subject request remote storage).1 =
      [recorder.offer subject request remote] := by
  rw [record_eq]
  cases (Storage.add (recorder.offer subject request remote) storage).1 <;> rfl

theorem storage_record (recorder : Recorder) (subject : Option Correlation.Identifier)
    (request remote : String) (storage : τ) :
    (recorder.record subject request remote storage).2 =
      Storage.addAll (Act.offers (recorder.record subject request remote storage).1) storage := by
  rw [offers_record, record_eq]
  rfl

/-- The offer of a diagnostic of the server itself. -/
def internal (recorder : Recorder) (message : String) : Offer := recorder.offer none message ""

@[simp] theorem replies_log (recorder : Recorder) (severity : Severity) (message : String)
    (storage : τ) : Act.replies (recorder.log severity message storage).1 = [] :=
  recorder.replies_record none message "" storage

@[simp] theorem offers_log (recorder : Recorder) (severity : Severity) (message : String)
    (storage : τ) : Act.offers (recorder.log severity message storage).1 = [recorder.internal message] :=
  recorder.offers_record none message "" storage

end Recorder

namespace Responder.Outcome

variable {σ τ : Type}

@[simp] theorem after_client (outcome : Outcome σ τ) (acts : List Act) :
    (outcome.after acts).client = outcome.client := rfl

@[simp] theorem after_storage (outcome : Outcome σ τ) (acts : List Act) :
    (outcome.after acts).storage = outcome.storage := rfl

@[simp] theorem after_acts (outcome : Outcome σ τ) (acts : List Act) :
    (outcome.after acts).acts = acts ++ outcome.acts := rfl

end Responder.Outcome

end LdapDecoy
