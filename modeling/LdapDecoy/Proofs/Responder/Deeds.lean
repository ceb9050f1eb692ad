import LdapDecoy.Proofs.Responder.Atomic

/-!
# Runs of deeds

What a server does that it records: messages that are handled, of whatever clients and in whatever order, and
diagnostics of its own. Deeds whose replies can all be written make a run, which leaves in storage what they offer,
one after the other.
-/
namespace LdapDecoy.Responder
open Ldap

variable {σ τ : Type}

/-- A message that is handled, with the state of its client, or a diagnostic; and when. -/
inductive Deed (σ : Type) where
  | handled (time : String) (client : σ) (message : Message)
  | logged (time : String) (severity : Recorder.Severity) (message : String)

namespace Deed

variable [Client σ]

def time : Deed σ → String
  | handled time _ _ | logged time _ _ => time

/-- What is recorded as the request. -/
def request : Deed σ → String
  | handled _ client message => Policy.transcript (Client.startTls client).1 message.operation
  | logged _ _ message => message

/-- What is recorded as the remote address. -/
def remote : Deed σ → String
  | handled _ client _ => (Client.remote client).text
  | logged _ _ _ => ""

/-- The record of a deed under an identifier, or under none where its texts are empty. -/
def record (deed : Deed σ) (uniqueId fullId : String) : Record :=
  ⟨uniqueId, fullId, deed.request, deed.remote, deed.time⟩

/-- The identifier that a deed carries. -/
def subject (domain : String) : Deed σ → Option Correlation.Identifier
  | handled _ _ message => Policy.subject domain message.operation
  | logged _ _ _ => none

/-- Whether a deed is recorded: everything but a request to unbind is. -/
def isRecorded : Deed σ → Bool
  | handled _ _ ⟨_, .unbind⟩ => false
  | handled _ _ _ | logged _ _ _ => true

/-- The offers of a deed. -/
def offers (domain token : String) (deed : Deed σ) : List Offer :=
  if deed.isRecorded then
    Policy.filed ⟨token, deed.time⟩ (deed.subject domain) deed.request deed.remote
  else []

theorem offers_handled (domain token time : String) (client : σ) (message : Message) :
    (handled time client message).offers domain token =
      Policy.offers ⟨domain, ⟨token, time⟩⟩ (Client.remote client).text (Client.startTls client).1
        message.operation := by
  obtain ⟨id, operation⟩ := message
  cases operation <;> rfl

omit [Client σ] in
/-- Only a search carries an identifier. -/
theorem exists_search {domain : String} {deed : Deed σ} {identifier : Correlation.Identifier}
    (carries : deed.subject domain = some identifier) :
    ∃ time client id search, deed = .handled time client ⟨id, .search search⟩ ∧
      Correlation.extract domain search.base = some identifier := by
  cases deed with
  | logged time severity message => cases carries
  | handled time client message =>
      obtain ⟨id, operation⟩ := message
      cases operation with
      | search request => exact ⟨time, client, id, request, rfl, carries⟩
      | bind _ _ | unbind | modify _ _ | add _ _ | delete _ | modifyDn _ _ _ | compare _ _ _ | abandon _
      | extended _ _ | unexpected _ => cases carries

omit [Client σ] in
theorem subject_of_unrecorded {deed : Deed σ} (silent : deed.isRecorded = false) (domain : String) :
    deed.subject domain = none := by
  cases deed with
  | logged time severity message => rfl
  | handled time client message =>
      obtain ⟨id, operation⟩ := message
      cases operation with
      | search request => cases silent
      | bind _ _ | unbind | modify _ _ | add _ _ | delete _ | modifyDn _ _ _ | compare _ _ _ | abandon _
      | extended _ _ | unexpected _ => rfl

end Deed

variable [Client σ] [Storage τ]

/-- A run of deeds from one state of storage to another, in which all replies are written. -/
inductive Run (domain token : String) : List (Deed σ) → τ → τ → Prop where
  | done {storage : τ} : Run domain token [] storage storage
  | handled {time : String} {client : σ} {message : Message} {deeds : List (Deed σ)} {storage last : τ}
      {flow : Flow}
      (written : (Responder.handle ⟨domain, ⟨token, time⟩⟩ message client storage).result = .ok flow)
      (rest : Run domain token deeds
        (Responder.handle ⟨domain, ⟨token, time⟩⟩ message client storage).storage last) :
      Run domain token (.handled time client message :: deeds) storage last
  | logged {time : String} {severity : Recorder.Severity} {message : String} {deeds : List (Deed σ)}
      {storage last : τ}
      (rest : Run domain token deeds (Recorder.log ⟨token, time⟩ severity message storage).2 last) :
      Run domain token (.logged time severity message :: deeds) storage last

variable [HasOutlet σ]

/-- Where handling a message succeeds, there was room for all replies. -/
theorem allows_of_ok {responder : Responder} {message : Message} {client : σ} {storage : τ} {flow : Flow}
    (succeeds : (responder.handle message client storage).result = .ok flow) :
    (HasOutlet.outlet client).Allows
      (Policy.replies (Client.isAbandoned message.id client) (Client.startTls client).1 message).length := by
  cases limit : HasOutlet.outlet client with
  | working => trivial
  | failing left fault =>
      apply Nat.le_of_not_lt
      intro short
      obtain ⟨fails, _⟩ := handle_short responder message client storage left fault limit short
      rw [succeeds] at fails
      cases fails

theorem storage_handled {domain token time : String} {message : Message} {client : σ} {storage : τ}
    {flow : Flow}
    (written : (Responder.handle ⟨domain, ⟨token, time⟩⟩ message client storage).result = .ok flow) :
    (Responder.handle ⟨domain, ⟨token, time⟩⟩ message client storage).storage =
      Storage.addAll ((Deed.handled time client message).offers domain token) storage := by
  have shows := shows_handle (⟨domain, ⟨token, time⟩⟩ : Responder) message client storage
    (allows_of_ok written)
  have stored := Dialogue.run_storage ⟨token, time⟩ client storage (Dialogue.plan domain message)
  rw [Deed.offers_handled, ← shows.offers]
  exact stored

/-- Whether all replies to a deed can be written. -/
def Deed.Fits : Deed σ → Prop
  | .handled _ client message => (HasOutlet.outlet client).Allows
      (Policy.replies (Client.isAbandoned message.id client) (Client.startTls client).1 message).length
  | .logged _ _ _ => True

/-- Deeds whose replies can all be written make a run, and leave in storage what they offer. -/
theorem Run.of_fits (domain token : String) {deeds : List (Deed σ)} (fits : ∀ deed ∈ deeds, deed.Fits)
    (storage : τ) :
    Run domain token deeds storage (Storage.addAll (deeds.flatMap (Deed.offers domain token)) storage) := by
  induction deeds generalizing storage with
  | nil => exact .done
  | cons deed deeds ih =>
      have rest := ih (fun later among => fits later (.tail _ among))
        (Storage.addAll (deed.offers domain token) storage)
      have fitsHere := fits deed (.head _)
      rw [List.flatMap_cons, Storage.addAll_append]
      cases deed with
      | handled time client message =>
          have written :=
            (shows_handle (⟨domain, ⟨token, time⟩⟩ : Responder) message client storage fitsHere).result
          rw [← storage_handled written] at rest ⊢
          exact .handled written rest
      | logged time severity message => exact .logged rest

end LdapDecoy.Responder
