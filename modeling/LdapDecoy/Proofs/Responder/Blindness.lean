import LdapDecoy.Proofs.Responder.Run
import LdapDecoy.Responder.Scripted

/-!
# What a client can see

A client sees replies, whether the connection goes on, and which requests are abandoned. All of it is in the
visible part of a dialogue, in which nothing is logged and nothing recorded, and the visible part is the same
for every root domain. So the answers tell nothing about the domain, the token or the storage.
-/
namespace LdapDecoy.Responder
open Ldap

namespace Dialogue

/-- A dialogue without its log and its records. -/
def visible : Dialogue → Dialogue
  | done flow => .done flow
  | log _ next => next.visible
  | reply r next => .reply r next.visible
  | ifAbandoned id yes no => .ifAbandoned id yes.visible no.visible
  | abandon target found missing => .abandon target found.visible missing.visible
  | startTls next => .startTls fun upgraded => (next upgraded).visible
  | record _ _ next => next.visible

theorem visible_searched (domain : String) (request : Search) :
    (searched domain request).visible = .done .proceed := by
  unfold searched
  cases Correlation.extract domain request.base <;> rfl

theorem visible_search (domain other : String) (id : MessageId) (request : Search) :
    (search domain id request).visible = (search other id request).visible := by
  simp only [search, visible, visible_searched]

/-- What can be seen of the answer to a message is the same under every root domain. -/
theorem visible_plan (domain other : String) (message : Message) :
    (plan domain message).visible = (plan other message).visible := by
  obtain ⟨id, operation⟩ := message
  cases operation with
  | search request => exact visible_search domain other id request
  | bind _ credentials => cases credentials <;> rfl
  | unbind | modify _ _ | add _ _ | delete _ | modifyDn _ _ _ | compare _ _ _ | abandon _
  | extended _ _ | unexpected _ => rfl

end Dialogue

namespace Scripted

/-- Clients that differ at most in where they are. -/
def Alike (client other : Scripted) : Prop := ∃ place, other = { client with remote := place }

theorem Alike.refl (client : Scripted) : Alike client client := ⟨client.remote, rfl⟩

theorem Alike.symm {client other : Scripted} (alike : Alike client other) : Alike other client := by
  obtain ⟨place, rfl⟩ := alike
  exact ⟨client.remote, rfl⟩

theorem Alike.trans {client middle other : Scripted} (left : Alike client middle)
    (right : Alike middle other) : Alike client other := by
  obtain ⟨_, rfl⟩ := left
  obtain ⟨place, rfl⟩ := right
  exact ⟨place, rfl⟩

end Scripted

variable {τ τ' : Type}

/-- Outcomes that a client cannot tell apart. -/
structure Agree (left : Outcome Scripted τ) (right : Outcome Scripted τ') : Prop where
  result : left.result = right.result
  replies : Act.replies left.acts = Act.replies right.acts
  client : left.client.Alike right.client

namespace Agree

variable {left : Outcome Scripted τ} {right : Outcome Scripted τ'}

theorem symm (agree : Agree left right) : Agree right left :=
  ⟨agree.result.symm, agree.replies.symm, agree.client.symm⟩

theorem trans {τ'' : Type} {last : Outcome Scripted τ''} (first : Agree left right)
    (second : Agree right last) : Agree left last :=
  ⟨first.result.trans second.result, first.replies.trans second.replies,
    first.client.trans second.client⟩

theorem after (agree : Agree left right) {acts more : List Act}
    (same : Act.replies acts = Act.replies more) : Agree (left.after acts) (right.after more) := by
  refine ⟨agree.result, ?_, agree.client⟩
  rw [Outcome.after_acts, Outcome.after_acts, Act.replies_append, Act.replies_append, same,
    agree.replies]

/-- Acts without a reply cannot be seen. -/
theorem hidden (agree : Agree left right) {acts : List Act} (none : Act.replies acts = []) :
    Agree (left.after acts) right := by
  change Agree (left.after acts) (right.after [])
  exact agree.after none

end Agree

variable [Storage τ] [Storage τ']

namespace Dialogue

/-- A client cannot tell a dialogue from its visible part. -/
theorem agree_visible (recorder other : Recorder) (dialogue : Dialogue) {client twin : Scripted}
    (alike : client.Alike twin) (storage : τ) (elsewhere : τ') :
    Agree (dialogue.run recorder client storage) (dialogue.visible.run other twin elsewhere) := by
  -- a reply is the one step that can end a dialogue, and it ends both or neither
  induction dialogue generalizing client twin storage elsewhere with
  | done flow => exact ⟨rfl, rfl, alike⟩
  | log event next ih => exact (ih alike storage elsewhere).hidden rfl
  | record subject transcript next ih =>
      exact (ih alike _ elsewhere).hidden (Recorder.replies_record _ _ _ _ _)
  | reply r next ih =>
      obtain ⟨place, rfl⟩ := alike
      obtain ⟨remote, inFlight, upgrade, outlet⟩ := client
      cases outlet with
      | working => exact (ih ⟨place, rfl⟩ storage elsewhere).after rfl
      | failing left fault =>
          cases left with
          | zero => exact ⟨rfl, rfl, place, rfl⟩
          | succ left => exact (ih ⟨place, rfl⟩ storage elsewhere).after rfl
  | ifAbandoned id yes no ihYes ihNo =>
      obtain ⟨place, rfl⟩ := alike
      change Agree (if client.inFlight.isAbandoned id then _ else _)
        (if client.inFlight.isAbandoned id then _ else _)
      split
      · exact ihYes ⟨place, rfl⟩ storage elsewhere
      · exact ihNo ⟨place, rfl⟩ storage elsewhere
  | abandon target found missing ihFound ihMissing =>
      obtain ⟨place, rfl⟩ := alike
      rw [visible, run_abandon, run_abandon]
      change Agree
        ((if client.inFlight.contains target then found else missing).run recorder _ storage)
        ((if client.inFlight.contains target then found.visible else missing.visible).run other _
          elsewhere)
      split
      · exact ihFound ⟨place, rfl⟩ storage elsewhere
      · exact ihMissing ⟨place, rfl⟩ storage elsewhere
  | startTls next ih =>
      obtain ⟨place, rfl⟩ := alike
      exact (ih client.upgrade ⟨place, rfl⟩ storage elsewhere).after rfl

/-- Dialogues with one visible part cannot be told apart. -/
theorem agree_of_visible (recorder other : Recorder) {dialogue twin : Dialogue}
    (same : dialogue.visible = twin.visible) {client neighbour : Scripted} (alike : client.Alike neighbour)
    (storage : τ) (elsewhere : τ') :
    Agree (dialogue.run recorder client storage) (twin.run other neighbour elsewhere) := by
  have left := agree_visible recorder other dialogue alike storage elsewhere
  have right := agree_visible other other twin (.refl neighbour) elsewhere elsewhere
  rw [same] at left
  exact left.trans right.symm

end Dialogue

namespace Scripted

/-- A step takes clients that differ in where they are to such clients, and shows the same. -/
theorem agree_step (responder other : Responder) (step : Step) {client neighbour : Scripted}
    (alike : client.Alike neighbour) (storage : τ) (elsewhere : τ') :
    Agree (Scripted.step responder step client storage)
      (Scripted.step other step neighbour elsewhere) := by
  cases step with
  | message message =>
      exact Dialogue.agree_of_visible responder.recorder other.recorder
        (Dialogue.visible_plan responder.domain other.domain message) alike storage elsewhere
  | begin _ | finish _ | tls _ | outlet _ =>
      obtain ⟨place, rfl⟩ := alike
      exact ⟨rfl, rfl, place, rfl⟩

/-- What a client sees of a step. -/
structure Sight where
  replies : List Reply
  result : Except SessionFault Flow
  /-- The requests in flight that are abandoned. -/
  abandoned : List MessageId

/-- What a client sees of steps that follow each other. -/
def sights (responder : Responder) : List Step → Scripted → τ → List Sight
  | [], _, _ => []
  | step :: steps, client, storage =>
    let outcome := Scripted.step responder step client storage
    ⟨Act.replies outcome.acts, outcome.result, outcome.client.inFlight.abandoned⟩ ::
      sights responder steps outcome.client outcome.storage

theorem sights_of_alike (responder other : Responder) (steps : List Step) {client neighbour : Scripted}
    (alike : client.Alike neighbour) (storage : τ) (elsewhere : τ') :
    sights responder steps client storage = sights other steps neighbour elsewhere := by
  induction steps generalizing client neighbour storage elsewhere with
  | nil => rfl
  | cons step steps ih =>
      have agree := agree_step responder other step alike storage elsewhere
      obtain ⟨place, same⟩ := agree.client
      rw [sights, sights, ih agree.client, agree.replies, agree.result, same]

/-- Whatever the root domains, the tokens, where the clients are and what storage answers, the same steps
show the same. -/
theorem sights_eq (responder other : Responder) (steps : List Step) (client : Scripted)
    (place : Net.Endpoint) (storage : τ) (elsewhere : τ') :
    sights responder steps client storage =
      sights other steps { client with remote := place } elsewhere :=
  sights_of_alike responder other steps ⟨place, rfl⟩ storage elsewhere

end Scripted

end LdapDecoy.Responder
