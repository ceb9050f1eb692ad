import LdapDecoy.Proofs.Responder.Policy
import LdapDecoy.Storage.Memory

/-!
# Replies first, records last

Handling a message is all or nothing: either every reply that it has is written and every record that it has
is offered, in that order, or the replies stop at the first one that fails and storage is not called at all.
-/
namespace LdapDecoy.Responder
open Ldap

namespace Dialogue

theorem searched_recordsLast (domain : String) (request : Search) :
    (searched domain request).RecordsLast := by
  unfold searched
  cases Correlation.extract domain request.base <;> trivial

theorem upgrade_recordsLast (id : MessageId) : (upgrade id).RecordsLast := by
  intro upgraded
  cases upgraded <;> trivial

theorem script_recordsLast (domain : String) (id : MessageId) (operation : Operation) :
    (script domain id operation).RecordsLast := by
  cases operation with
  | bind dn credentials => cases credentials <;> trivial
  | search request =>
      have last := searched_recordsLast domain request
      exact ⟨last, last⟩
  | abandon target => exact ⟨trivial, trivial⟩
  | extended name value =>
      change (Dialogue.extended id name value).RecordsLast
      unfold Dialogue.extended
      split
      · exact upgrade_recordsLast id
      · trivial
  | unbind | modify _ _ | add _ _ | delete _ | modifyDn _ _ _ | compare _ _ _ | unexpected _ => trivial

/-- Whatever a message asks for, no reply follows a record. -/
theorem plan_recordsLast (domain : String) (message : Message) : (plan domain message).RecordsLast :=
  script_recordsLast domain message.id message.operation

end Dialogue

/-- Whether an outlet can write so many replies. -/
def Outlet.Allows : Outlet → Nat → Prop
  | working, _ => True
  | failing left _, count => count ≤ left

instance (outlet : Outlet) (count : Nat) : Decidable (outlet.Allows count) :=
  match outlet with
  | .working => isTrue trivial
  | .failing left _ => Nat.decLe count left

variable {σ τ : Type} [Client σ] [HasOutlet σ] [Storage τ]

/-- Handling a message whose replies can all be written shows what the policy has. -/
theorem shows_handle (responder : Responder) (message : Message) (client : σ) (storage : τ)
    (allows : (HasOutlet.outlet client).Allows
      (Policy.replies (Client.isAbandoned message.id client) (Client.startTls client).1 message).length) :
    Shows (responder.handle message client storage) (Policy.flow message.operation)
      (Policy.replies (Client.isAbandoned message.id client) (Client.startTls client).1 message)
      (Policy.offers responder (Client.remote client).text (Client.startTls client).1
        message.operation) := by
  have shows := Dialogue.shows_plan client storage responder message
  have same := HasOutlet.through_outlet client
  cases limit : HasOutlet.outlet client with
  | working =>
      rw [limit] at same
      rw [same] at shows
      exact shows
  | failing left fault =>
      rw [limit] at same allows
      have cut := Dialogue.run_cut responder.recorder client storage
        (Dialogue.plan responder.domain message) left fault
      rw [same] at cut
      obtain ⟨result, acts⟩ := cut.enough (by rw [shows.replies]; exact allows)
      refine ⟨result.trans shows.result, ?_, ?_⟩
      · exact (congrArg Act.replies acts).trans shows.replies
      · exact (congrArg Act.offers acts).trans shows.offers

/-- Handling a message ends with the outlet's fault where the replies do not suffice, and records nothing. -/
theorem handle_short (responder : Responder) (message : Message) (client : σ) (storage : τ) (left : Nat)
    (fault : SessionFault) (limit : HasOutlet.outlet client = .failing left fault)
    (short : left <
      (Policy.replies (Client.isAbandoned message.id client) (Client.startTls client).1 message).length) :
    (responder.handle message client storage).result = .error fault ∧
      Act.replies (responder.handle message client storage).acts =
        (Policy.replies (Client.isAbandoned message.id client) (Client.startTls client).1 message).take
          left ∧
      Act.offers (responder.handle message client storage).acts = [] ∧
      (responder.handle message client storage).storage = storage := by
  have shows := Dialogue.shows_plan client storage responder message
  have same := HasOutlet.through_outlet client
  have cut := Dialogue.run_cut responder.recorder client storage
    (Dialogue.plan responder.domain message) left fault
  rw [limit] at same
  rw [same] at cut
  obtain ⟨failed, replies⟩ := cut.short (by rw [shows.replies]; exact short)
  rw [shows.replies] at replies
  have last := Dialogue.plan_recordsLast responder.domain message
  exact ⟨failed, replies,
    (last.repliesThenRecords responder.recorder client storage).unrecorded fault failed⟩

/-- Handling a message fails with the fault of the outlet alone, and then records nothing. -/
theorem handle_of_error {responder : Responder} {message : Message} {client : σ} {storage : τ}
    {fault : SessionFault} (fails : (responder.handle message client storage).result = .error fault) :
    (HasOutlet.outlet client).fault? = some fault ∧
      Act.offers (responder.handle message client storage).acts = [] := by
  have shows := shows_handle responder message client storage
  cases limit : HasOutlet.outlet client with
  | working =>
      rw [limit] at shows
      rw [(shows trivial).result] at fails
      cases fails
  | failing left fault' =>
      rw [limit] at shows
      rcases Nat.lt_or_ge left (Policy.replies (Client.isAbandoned message.id client)
        (Client.startTls client).1 message).length with short | enough
      · obtain ⟨failed, _, unrecorded, _⟩ :=
          handle_short responder message client storage left fault' limit short
        rw [failed] at fails
        cases fails
        exact ⟨rfl, unrecorded⟩
      · rw [(shows enough).result] at fails
        cases fails

/-- An upgrade is not begun when the reply in front of it cannot be written: nothing is done but to log the
request. -/
theorem handle_unbegun (responder : Responder) (id : MessageId) (value : Option Bytes) (client : σ)
    (storage : τ) (fault : SessionFault) (limit : HasOutlet.outlet client = .failing 0 fault) :
    responder.handle ⟨id, .extended startTlsOid value⟩ client storage =
      ⟨.error fault, client, storage, [.logged (.tagged .securityInfo "LDAP client")]⟩ := by
  have same := HasOutlet.through_outlet client
  rw [limit] at same
  rw [Responder.handle, Dialogue.plan_upgrade, Dialogue.run_log, Dialogue.upgrade, ← same,
    Dialogue.run_reply_zero]
  rfl

/-- Handling a message writes its replies and then makes its offers, and calls storage with nothing else; or
it stops at the first reply that fails, and then storage is not called; an upgrade whose first reply fails is
not begun. -/
theorem handle_all_or_nothing (responder : Responder) (message : Message) (client : σ) (storage : τ) :
    let upgrade := (Client.startTls client).1
    let replies := Policy.replies (Client.isAbandoned message.id client) upgrade message
    let offers := Policy.offers responder (Client.remote client).text upgrade message.operation
    let outcome := responder.handle message client storage
    Act.RepliesFirst outcome.acts ∧
    ((HasOutlet.outlet client).Allows replies.length →
      outcome.result = .ok (Policy.flow message.operation) ∧
        Act.replies outcome.acts = replies ∧
        Act.offers outcome.acts = offers ∧
        outcome.storage = Storage.addAll offers storage) ∧
    (∀ left fault, HasOutlet.outlet client = .failing left fault → left < replies.length →
      outcome.result = .error fault ∧
        Act.replies outcome.acts = replies.take left ∧
        Act.offers outcome.acts = [] ∧
        outcome.storage = storage) ∧
    (∀ value fault, message.operation = .extended startTlsOid value →
      HasOutlet.outlet client = .failing 0 fault →
        outcome = ⟨.error fault, client, storage, [.logged (.tagged .securityInfo "LDAP client")]⟩) := by
  intro upgrade replies offers outcome
  refine ⟨?_, ?_, ?_, ?_⟩
  · have last := Dialogue.plan_recordsLast responder.domain message
    exact (last.repliesThenRecords responder.recorder client storage).ordered
  · intro allows
    have shows := shows_handle responder message client storage allows
    have stored := Dialogue.run_storage responder.recorder client storage
      (Dialogue.plan responder.domain message)
    refine ⟨shows.result, shows.replies, shows.offers, stored.trans ?_⟩
    exact congrArg (Storage.addAll · storage) shows.offers
  · intro left fault limit short
    exact handle_short responder message client storage left fault limit short
  · intro value fault isStartTls limit
    obtain ⟨id, operation⟩ := message
    cases isStartTls
    exact handle_unbegun responder id value client storage fault limit

/-- A probe's search with room for two replies, the same with room for one, and an upgrade with room for
none. -/
theorem handle_probe_and_upgrade :
    let responder : Responder := ⟨"t", ⟨"token", "now"⟩⟩
    let fault := SessionFault.transportUnavailable
    let client (left : Nat) : Scripted := ⟨⟨.v4 127 0 0 1, 4000, 0⟩, .none, .ok (), .failing left fault⟩
    let probe : Message :=
      ⟨7, .search ⟨"c59e3crp82ke7bcnedq0cfjqdpeyyyyyy.t", 0, .present "cn", ["mail"]⟩⟩
    let startTls : Message := ⟨8, .extended startTlsOid none⟩
    let whole := responder.handle probe (client 2) Storage.Memory.empty
    let cut := responder.handle probe (client 1) Storage.Memory.empty
    let unbegun := responder.handle startTls (client 0) Storage.Memory.empty
    ((client 2).outlet.Allows 2 ∧ whole.result = .ok .proceed ∧ (Act.replies whole.acts).length = 2 ∧
        (Act.offers whole.acts).map (fun offer => (offer.kind, offer.key)) =
          [(.correlation, "c59e3crp82ke7bcnedq0"), (.token, "token")]) ∧
      ((client 1).outlet = .failing 1 fault ∧ 1 < 2 ∧ cut.result = .error fault ∧
        (Act.replies cut.acts).length = 1 ∧ Act.offers cut.acts = []) ∧
      ((client 0).outlet = .failing 0 fault ∧ startTls.operation = .extended startTlsOid none ∧
        unbegun.result = .error fault ∧ unbegun.acts.length = 1) := by
  intro responder fault client probe startTls whole cut unbegun
  obtain ⟨_, complete, _⟩ := handle_all_or_nothing responder probe (client 2) Storage.Memory.empty
  obtain ⟨_, _, stopped, _⟩ := handle_all_or_nothing responder probe (client 1) Storage.Memory.empty
  obtain ⟨_, _, _, untouched⟩ := handle_all_or_nothing responder startTls (client 0) Storage.Memory.empty
  have room : (client 2).outlet.Allows 2 := Nat.le_refl 2
  obtain ⟨flow, replies, offers, _⟩ := complete room
  obtain ⟨failed, first, nothing, _⟩ := stopped 1 fault rfl (by decide)
  have logged := untouched none fault rfl rfl
  refine ⟨⟨room, flow, congrArg List.length replies, ?_⟩,
    ⟨rfl, by decide, failed, congrArg List.length first, nothing⟩,
    ⟨rfl, rfl, congrArg Outcome.result logged, congrArg (fun outcome => outcome.acts.length) logged⟩⟩
  refine (congrArg (List.map fun offer => (offer.kind, offer.key)) offers).trans ?_
  decide +kernel

end LdapDecoy.Responder
