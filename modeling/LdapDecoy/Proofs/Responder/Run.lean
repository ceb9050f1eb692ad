import LdapDecoy.Proofs.Acts

/-!
# The course of a dialogue

One equation for each step of a running dialogue, and what follows: storage is called with the offers and
with nothing else, what no step changes in the client stays as it is, and a dialogue that records last writes
its replies before its first offer and has not called storage when it ends with a fault.
-/
namespace LdapDecoy.Responder
open Ldap

namespace Dialogue

variable {σ τ : Type} [Client σ] [Storage τ]
variable (recorder : Recorder) (client : σ) (storage : τ)

/-! ## Steps -/

theorem run_log (event : Event) (next : Dialogue) :
    (log event next).run recorder client storage =
      (next.run recorder client storage).after [.logged event] := rfl

theorem run_reply_ok {r : Reply} {client behind : σ} (written : Client.write r client = (.ok (), behind))
    (next : Dialogue) :
    (reply r next).run recorder client storage =
      (next.run recorder behind storage).after [.replied r] := by
  rw [run, written]

/-- A reply that cannot be written ends the dialogue. -/
theorem run_reply_error {r : Reply} {client behind : σ} {fault : SessionFault}
    (failed : Client.write r client = (.error fault, behind)) (next : Dialogue) :
    (reply r next).run recorder client storage = ⟨.error fault, behind, storage, []⟩ := by
  rw [run, failed]

theorem run_ifAbandoned (id : MessageId) (yes no : Dialogue) :
    (ifAbandoned id yes no).run recorder client storage =
      (if Client.isAbandoned id client then yes else no).run recorder client storage := by
  rw [run]
  split <;> rfl

theorem run_abandon (target : MessageId) (found missing : Dialogue) :
    (abandon target found missing).run recorder client storage =
      (if (Client.abandon target client).1 then found else missing).run recorder
        (Client.abandon target client).2 storage := by
  rw [run]
  cases Client.abandon target client with
  | mk inFlight behind => cases inFlight <;> rfl

theorem run_startTls (next : Except TlsFault Unit → Dialogue) :
    (startTls next).run recorder client storage =
      ((next (Client.startTls client).1).run recorder (Client.startTls client).2.2 storage).after
        ((Client.startTls client).2.1.map .logged) := rfl

theorem run_record (subject : Option Correlation.Identifier) (transcript : String) (next : Dialogue) :
    (record subject transcript next).run recorder client storage =
      (next.run recorder client
        (recorder.record subject transcript (Client.remote client).text storage).2).after
          (recorder.record subject transcript (Client.remote client).text storage).1 := rfl

/-! ## Storage and the client behind a dialogue -/

/-- What a dialogue leaves in storage is what its offers leave there. -/
theorem run_storage (dialogue : Dialogue) :
    (dialogue.run recorder client storage).storage =
      Storage.addAll (Act.offers (dialogue.run recorder client storage).acts) storage := by
  induction dialogue generalizing client storage with
  | done flow => rfl
  | log event next ih => exact ih client storage
  | reply r next ih =>
      rcases written : Client.write r client with ⟨fault | _, behind⟩
      · rw [run_reply_error recorder storage written]
        rfl
      · rw [run_reply_ok recorder storage written]
        exact ih behind storage
  | ifAbandoned id yes no ihYes ihNo =>
      rw [run_ifAbandoned]
      split
      · exact ihYes client storage
      · exact ihNo client storage
  | abandon target found missing ihFound ihMissing =>
      rw [run_abandon]
      split
      · exact ihFound _ storage
      · exact ihMissing _ storage
  | startTls next ih =>
      rw [run_startTls, Outcome.after_storage, Outcome.after_acts, Act.offers_append,
        Act.offers_map_logged, List.nil_append]
      exact ih _ _ storage
  | record subject transcript next ih =>
      rw [run_record, Outcome.after_storage, Outcome.after_acts, Act.offers_append,
        Storage.addAll_append, ← Recorder.storage_record]
      exact ih client _

end Dialogue

/-- That two outcomes, over whatever two stores, differ in storage and in what is logged about it alone. -/
structure Outcome.Matches {σ τ τ' : Type} (outcome : Outcome σ τ) (other : Outcome σ τ') : Prop where
  result : other.result = outcome.result
  client : other.client = outcome.client
  replies : Act.replies other.acts = Act.replies outcome.acts
  offers : Act.offers other.acts = Act.offers outcome.acts

theorem Outcome.Matches.after {σ τ τ' : Type} {outcome : Outcome σ τ} {other : Outcome σ τ'}
    (same : outcome.Matches other) {acts more : List Act} (replies : Act.replies more = Act.replies acts)
    (offers : Act.offers more = Act.offers acts) : (outcome.after acts).Matches (other.after more) := by
  refine ⟨same.result, same.client, ?_, ?_⟩
  · rw [Outcome.after_acts, Outcome.after_acts, Act.replies_append, Act.replies_append, replies,
      same.replies]
  · rw [Outcome.after_acts, Outcome.after_acts, Act.offers_append, Act.offers_append, offers, same.offers]

namespace Dialogue

variable {σ τ : Type} [Client σ] [Storage τ]
variable (recorder : Recorder) (client : σ) (storage : τ)

/-- A dialogue does the same over every store. -/
theorem run_elsewhere {τ' : Type} [Storage τ'] (elsewhere : τ') (dialogue : Dialogue) :
    (dialogue.run recorder client storage).Matches (dialogue.run recorder client elsewhere) := by
  induction dialogue generalizing client storage elsewhere with
  | done flow => exact ⟨rfl, rfl, rfl, rfl⟩
  | log event next ih => exact (ih client storage elsewhere).after rfl rfl
  | reply r next ih =>
      rcases written : Client.write r client with ⟨fault | _, behind⟩
      · rw [run_reply_error recorder storage written, run_reply_error recorder elsewhere written]
        exact ⟨rfl, rfl, rfl, rfl⟩
      · rw [run_reply_ok recorder storage written, run_reply_ok recorder elsewhere written]
        exact (ih behind storage elsewhere).after rfl rfl
  | ifAbandoned id yes no ihYes ihNo =>
      rw [run_ifAbandoned, run_ifAbandoned]
      split
      · exact ihYes client storage elsewhere
      · exact ihNo client storage elsewhere
  | abandon target found missing ihFound ihMissing =>
      rw [run_abandon, run_abandon]
      split
      · exact ihFound _ storage elsewhere
      · exact ihMissing _ storage elsewhere
  | startTls next ih => exact (ih _ _ storage elsewhere).after rfl rfl
  | record subject transcript next ih =>
      rw [run_record, run_record]
      refine (ih client _ _).after ?_ ?_
      · rw [Recorder.replies_record, Recorder.replies_record]
      · rw [Recorder.offers_record, Recorder.offers_record]

/-- Whether a dialogue asks for no upgrade. -/
def NeverUpgrades : Dialogue → Prop
  | done _ => True
  | log _ next => next.NeverUpgrades
  | reply _ next => next.NeverUpgrades
  | ifAbandoned _ yes no => yes.NeverUpgrades ∧ no.NeverUpgrades
  | abandon _ found missing => found.NeverUpgrades ∧ missing.NeverUpgrades
  | startTls _ => False
  | record _ _ next => next.NeverUpgrades

/-- Whether a dialogue abandons no request. -/
def NeverAbandons : Dialogue → Prop
  | done _ => True
  | log _ next => next.NeverAbandons
  | reply _ next => next.NeverAbandons
  | ifAbandoned _ yes no => yes.NeverAbandons ∧ no.NeverAbandons
  | abandon _ _ _ => False
  | startTls next => ∀ upgraded, (next upgraded).NeverAbandons
  | record _ _ next => next.NeverAbandons

/-- What no step changes in the client stays as it is. -/
theorem run_keeps {α : Type} (part : σ → α)
    (write : ∀ reply client, part (Client.write reply client).2 = part client) {dialogue : Dialogue}
    (abandon : dialogue.NeverAbandons ∨ ∀ id client, part (Client.abandon id client).2 = part client)
    (startTls : dialogue.NeverUpgrades ∨ ∀ client, part (Client.startTls client).2.2 = part client) :
    part (dialogue.run recorder client storage).client = part client := by
  induction dialogue generalizing client storage with
  | done flow => rfl
  | log event next ih => exact ih client storage abandon startTls
  | reply r next ih =>
      have same := write r client
      rcases written : Client.write r client with ⟨fault | _, behind⟩
      · rw [run_reply_error recorder storage written]
        rw [written] at same
        exact same
      · rw [run_reply_ok recorder storage written]
        rw [written] at same
        exact (ih behind storage abandon startTls).trans same
  | ifAbandoned id yes no ihYes ihNo =>
      rw [run_ifAbandoned]
      split
      · exact ihYes client storage (abandon.imp_left And.left) (startTls.imp_left And.left)
      · exact ihNo client storage (abandon.imp_left And.right) (startTls.imp_left And.right)
  | abandon target found missing ihFound ihMissing =>
      have kept := abandon.resolve_left id
      rw [run_abandon]
      split
      · exact (ihFound _ storage (.inr kept) (startTls.imp_left And.left)).trans (kept target client)
      · exact (ihMissing _ storage (.inr kept) (startTls.imp_left And.right)).trans (kept target client)
  | startTls next ih =>
      have kept := startTls.resolve_left id
      rw [run_startTls]
      exact (ih _ _ storage (abandon.imp_left fun never => never _) (.inr kept)).trans (kept client)
  | record subject transcript next ih => exact ih client _ abandon startTls

/-! ## Changes that no step notices -/

end Dialogue

/-- A change of clients that none of their answers shows, upgrades left out. -/
structure Unnoticed {σ σ' : Type} [Client σ] [Client σ'] (change : σ → σ') : Prop where
  remote : ∀ client, Client.remote (change client) = Client.remote client
  write : ∀ reply client, Client.write reply (change client) =
    ((Client.write reply client).1, change (Client.write reply client).2)
  isAbandoned : ∀ id client, Client.isAbandoned id (change client) = Client.isAbandoned id client
  abandon : ∀ id client, Client.abandon id (change client) =
    ((Client.abandon id client).1, change (Client.abandon id client).2)

/-- The outcome with another client behind it. -/
def Outcome.withClient {σ σ' τ : Type} (change : σ → σ') (outcome : Outcome σ τ) : Outcome σ' τ :=
  ⟨outcome.result, change outcome.client, outcome.storage, outcome.acts⟩

namespace Dialogue

/-- A dialogue without an upgrade does the same for a client and for the changed one. -/
theorem run_unnoticed {σ σ' τ : Type} [Client σ] [Client σ'] [Storage τ] {change : σ → σ'}
    (unnoticed : Unnoticed change) (recorder : Recorder) {dialogue : Dialogue}
    (never : dialogue.NeverUpgrades) (client : σ) (storage : τ) :
    dialogue.run recorder (change client) storage =
      (dialogue.run recorder client storage).withClient change := by
  induction dialogue generalizing client storage with
  | done flow => rfl
  | log event next ih =>
      rw [run_log, run_log, ih never client storage]
      rfl
  | reply r next ih =>
      have same := unnoticed.write r client
      rcases written : Client.write r client with ⟨fault | _, behind⟩
      · rw [written] at same
        rw [run_reply_error recorder storage same, run_reply_error recorder storage written]
        rfl
      · rw [written] at same
        rw [run_reply_ok recorder storage same, run_reply_ok recorder storage written,
          ih never behind storage]
        rfl
  | ifAbandoned id yes no ihYes ihNo =>
      rw [run_ifAbandoned, run_ifAbandoned, unnoticed.isAbandoned]
      split
      · exact ihYes never.1 client storage
      · exact ihNo never.2 client storage
  | abandon target found missing ihFound ihMissing =>
      rw [run_abandon, run_abandon, unnoticed.abandon]
      split
      · exact ihFound never.1 _ storage
      · exact ihMissing never.2 _ storage
  | startTls next ih => exact never.elim
  | record subject transcript next ih =>
      rw [run_record, run_record, unnoticed.remote, ih never client _]
      rfl

/-! ## Dialogues in which no reply follows a record -/

variable {σ τ : Type} [Client σ] [Storage τ]
variable (recorder : Recorder) (client : σ) (storage : τ)

/-- Whether a dialogue only logs and records. -/
def IsSilent : Dialogue → Prop
  | done _ => True
  | log _ next => next.IsSilent
  | record _ _ next => next.IsSilent
  | reply _ _ | ifAbandoned _ _ _ | abandon _ _ _ | startTls _ => False

/-- Whether a dialogue is silent once it has recorded. -/
def RecordsLast : Dialogue → Prop
  | done _ => True
  | log _ next => next.RecordsLast
  | reply _ next => next.RecordsLast
  | ifAbandoned _ yes no => yes.RecordsLast ∧ no.RecordsLast
  | abandon _ found missing => found.RecordsLast ∧ missing.RecordsLast
  | startTls next => ∀ upgraded, (next upgraded).RecordsLast
  | record _ _ next => next.IsSilent

/-- A silent dialogue writes nothing, so that nothing can end it early. -/
theorem IsSilent.ends {dialogue : Dialogue} (silent : dialogue.IsSilent) :
    (∃ flow, (dialogue.run recorder client storage).result = .ok flow) ∧
      Act.replies (dialogue.run recorder client storage).acts = [] := by
  induction dialogue generalizing storage with
  | done flow => exact ⟨⟨flow, rfl⟩, rfl⟩
  | log event next ih => exact ih storage silent
  | record subject transcript next ih =>
      obtain ⟨result, replies⟩ := ih
        (recorder.record subject transcript (Client.remote client).text storage).2 silent
      refine ⟨result, ?_⟩
      rw [run_record, Outcome.after_acts, Act.replies_append, Recorder.replies_record, replies]
      rfl
  | reply r next ih => exact silent.elim
  | ifAbandoned id yes no ihYes ihNo => exact silent.elim
  | abandon target found missing ihFound ihMissing => exact silent.elim
  | startTls next ih => exact silent.elim

/-- What holds of the outcome of a dialogue that records last, in storage and with its acts. -/
structure RepliesThenRecords (outcome : Outcome σ τ) (storage : τ) : Prop where
  ordered : Act.RepliesFirst outcome.acts
  unrecorded : ∀ fault, outcome.result = .error fault →
    Act.offers outcome.acts = [] ∧ outcome.storage = storage

omit [Client σ] [Storage τ] in
theorem RepliesThenRecords.after {outcome : Outcome σ τ} {storage : τ}
    (holds : RepliesThenRecords outcome storage) {acts : List Act} (none : Act.offers acts = []) :
    RepliesThenRecords (outcome.after acts) storage := by
  constructor
  · exact holds.ordered.after none
  · intro fault failed
    obtain ⟨unoffered, same⟩ := holds.unrecorded fault failed
    refine ⟨?_, same⟩
    rw [Outcome.after_acts, Act.offers_append, none, unoffered]
    rfl

theorem RecordsLast.repliesThenRecords {dialogue : Dialogue} (last : dialogue.RecordsLast) :
    RepliesThenRecords (dialogue.run recorder client storage) storage := by
  induction dialogue generalizing client with
  | done flow => exact ⟨⟨[], [], rfl, rfl, rfl⟩, fun _ _ => ⟨rfl, rfl⟩⟩
  | log event next ih => exact (ih client last).after rfl
  | record subject transcript next ih =>
      have silent : (record subject transcript next).IsSilent := last
      obtain ⟨⟨flow, succeeds⟩, replies⟩ := silent.ends recorder client storage
      constructor
      · exact ⟨[], _, rfl, rfl, replies⟩
      · intro fault failed
        rw [succeeds] at failed
        cases failed
  | reply r next ih =>
      rcases written : Client.write r client with ⟨fault | _, behind⟩
      · rw [run_reply_error recorder storage written]
        exact ⟨⟨[], [], rfl, rfl, rfl⟩, fun _ _ => ⟨rfl, rfl⟩⟩
      · rw [run_reply_ok recorder storage written]
        exact (ih behind last).after rfl
  | ifAbandoned id yes no ihYes ihNo =>
      rw [run_ifAbandoned]
      split
      · exact ihYes client last.1
      · exact ihNo client last.2
  | abandon target found missing ihFound ihMissing =>
      rw [run_abandon]
      split
      · exact ihFound _ last.1
      · exact ihMissing _ last.2
  | startTls next ih => exact (ih _ _ (last _)).after (Act.offers_map_logged _)

end Dialogue

end LdapDecoy.Responder
