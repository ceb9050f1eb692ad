import LdapDecoy.Recorder
import LdapDecoy.Responder.Client
import LdapDecoy.Responder.Dialogue

/-!
# Running a dialogue

A dialogue over a client and a store. A reply that cannot be written ends the dialogue with the client's
fault; what storage says changes nothing but the log.
-/
namespace LdapDecoy.Responder
open Ldap

structure Outcome (σ τ : Type) where
  result : Except SessionFault Flow
  client : σ
  storage : τ
  /-- What was done, in order. -/
  acts : List Act

/-- The outcome with some acts in front. -/
def Outcome.after {σ τ : Type} (outcome : Outcome σ τ) (acts : List Act) : Outcome σ τ :=
  { outcome with acts := acts ++ outcome.acts }

variable {σ τ : Type} [Client σ] [Storage τ]

def Dialogue.run (recorder : Recorder) : Dialogue → σ → τ → Outcome σ τ
  | .done flow, client, storage => ⟨.ok flow, client, storage, []⟩
  | .log event next, client, storage => (next.run recorder client storage).after [.logged event]
  | .reply r next, client, storage =>
    match Client.write r client with
    | (.error fault, client) => ⟨.error fault, client, storage, []⟩
    | (.ok (), client) => (next.run recorder client storage).after [.replied r]
  | .ifAbandoned id yes no, client, storage =>
    if Client.isAbandoned id client then yes.run recorder client storage
    else no.run recorder client storage
  | .abandon target found missing, client, storage =>
    match Client.abandon target client with
    | (true, client) => found.run recorder client storage
    | (false, client) => missing.run recorder client storage
  | .startTls next, client, storage =>
    let (upgraded, events, client) := Client.startTls client
    ((next upgraded).run recorder client storage).after (events.map .logged)
  | .record subject transcript next, client, storage =>
    let (acts, storage) :=
      recorder.record subject transcript (Client.remote client).text storage
    (next.run recorder client storage).after acts

/-- What no answer of a client makes larger, no dialogue makes larger. -/
theorem Dialogue.run_le (size : σ → Nat)
    (write : ∀ reply client, size (Client.write reply client).2 ≤ size client)
    (abandon : ∀ id client, size (Client.abandon id client).2 ≤ size client)
    (startTls : ∀ client, size (Client.startTls client).2.2 ≤ size client)
    (recorder : Recorder) (dialogue : Dialogue) (client : σ) (storage : τ) :
    size (dialogue.run recorder client storage).client ≤ size client := by
  induction dialogue generalizing client storage with
  | done flow => exact Nat.le_refl _
  | log event next ih => exact ih client storage
  | reply r next ih =>
    have written := write r client
    unfold Dialogue.run
    split
    · rename_i equation
      simpa [equation] using written
    · rename_i equation
      rw [equation] at written
      exact Nat.le_trans (ih _ storage) written
  | ifAbandoned id yes no ihYes ihNo =>
    unfold Dialogue.run
    split
    · exact ihYes client storage
    · exact ihNo client storage
  | abandon target found missing ihFound ihMissing =>
    have abandoned := abandon target client
    unfold Dialogue.run
    split
    · rename_i equation
      rw [equation] at abandoned
      exact Nat.le_trans (ihFound _ storage) abandoned
    · rename_i equation
      rw [equation] at abandoned
      exact Nat.le_trans (ihMissing _ storage) abandoned
  | startTls next ih => exact Nat.le_trans (ih _ _ storage) (startTls client)
  | record subject transcript next ih => exact ih client _

end LdapDecoy.Responder

namespace LdapDecoy

/-- Whom the server answers for: the root domain of its probes, and who records. -/
structure Responder where
  domain : String
  recorder : Recorder
  deriving DecidableEq, Repr

namespace Responder

variable {σ τ : Type} [Client σ] [Storage τ]

/-- Handles one message. -/
def handle (responder : Responder) (message : Ldap.Message) (client : σ) (storage : τ) : Outcome σ τ :=
  (Dialogue.plan responder.domain message).run responder.recorder client storage

end Responder

end LdapDecoy
