import LdapDecoy.Proofs.Responder.Deeds
import Mathlib.Data.List.Basic

/-!
# Which request is answered with what

The table of answers: one row for each kind of request, or more where the answer also depends on whether the
request has been abandoned, on how an upgrade ends or on whether a base is empty. Where every reply can be
written, the replies to a message are those of its row, and they show nothing of what came before.
-/
namespace LdapDecoy.Responder
open Ldap

/-- The responses to an operation. `flagged` is whether its request has been abandoned, and `upgrade` what an
upgrade comes to. -/
inductive Answers (flagged : Bool) (upgrade : Except TlsFault Unit) : Operation → List Response → Prop where
  | simpleBind (dn password : String) :
      Answers flagged upgrade (.bind dn (.simple password)) [.bind ⟨.success, "", "", []⟩ none]
  | saslBind (dn mechanism : String) (credentials : Bytes) :
      Answers flagged upgrade (.bind dn (.sasl mechanism credentials))
        [.bind ⟨.success, "", "Default binding behavior set to return Success", []⟩ none]
  | unbind : Answers flagged upgrade .unbind []
  | search (request : Search) (unflagged : flagged = false) :
      Answers flagged upgrade (.search request)
        [.searchEntry
          (if request.base = "" then "cn=ldapcatch" else "cn=ldapcatch, " ++ request.base)
          [⟨"mail", [Text.bytes "catch@ldap.invalid", Text.bytes "catch@ldap.invalid"]⟩,
            ⟨"company", [Text.bytes "aaa"]⟩, ⟨"department", [Text.bytes "bbbb"]⟩,
            ⟨"l", [Text.bytes "cccc"]⟩, ⟨"mobile", [Text.bytes "123456789"]⟩,
            ⟨"telephoneNumber", [Text.bytes "123456789"]⟩, ⟨"cn", [Text.bytes "catch"]⟩],
          .searchDone ⟨.success, "", "", []⟩]
  | abandonedSearch (request : Search) (abandoned : flagged = true) :
      Answers flagged upgrade (.search request) [.searchDone ⟨.success, "", "", []⟩]
  | modify (dn : String) (changes : List Change) :
      Answers flagged upgrade (.modify dn changes) [.modify ⟨.success, "", "", []⟩]
  | add (dn : String) (attributes : List Attribute) :
      Answers flagged upgrade (.add dn attributes) [.add ⟨.success, "", "", []⟩]
  | delete (dn : String) : Answers flagged upgrade (.delete dn) [.delete ⟨.success, "", "", []⟩]
  | modifyDn (dn newRdn : String) (newSuperior : Option String) :
      Answers flagged upgrade (.modifyDn dn newRdn newSuperior)
        [.modifyDn ⟨.unwillingToPerform, "", "Operation not implemented by server", []⟩]
  | compare (dn attr : String) (value : Bytes) :
      Answers flagged upgrade (.compare dn attr value) [.compare ⟨.compareTrue, "", "", []⟩]
  | abandon (target : MessageId) : Answers flagged upgrade (.abandon target) []
  | upgraded (value : Option Bytes) (done : upgrade = .ok ()) :
      Answers flagged upgrade (.extended startTlsOid value)
        [.extended ⟨.success, "", "", []⟩ (some startTlsOid) none]
  | notUpgraded (value : Option Bytes) (fault : TlsFault) (failed : upgrade = .error fault) :
      Answers flagged upgrade (.extended startTlsOid value)
        [.extended ⟨.success, "", "", []⟩ (some startTlsOid) none,
          .extended ⟨.operationsError, "", "StartTLS Handshake error : \"" ++ fault.message ++ "\"", []⟩
            (some startTlsOid) none]
  | extended (name : String) (value : Option Bytes) (other : name ≠ startTlsOid) :
      Answers flagged upgrade (.extended name value) [.extended ⟨.success, "", "", []⟩ none none]
  | unexpected (kind : Unexpected) :
      Answers flagged upgrade (.unexpected kind)
        [.extended ⟨.unwillingToPerform, "", "Operation not implemented by server", []⟩ none none]

/-- A reply under the id of its request, without controls, and with a result, if it has one, that names no
entry and refers to no other server. -/
structure Plain (id : MessageId) (reply : Reply) : Prop where
  echoes : reply.id = id
  controls : reply.controls = []
  result : ∀ result, reply.response.result? = some result → result.matchedDn = "" ∧ result.referral = []

/-- In every row, no result names an entry or refers to another server. -/
theorem Answers.result_empty {flagged : Bool} {upgrade : Except TlsFault Unit} {operation : Operation}
    {responses : List Response} (row : Answers flagged upgrade operation responses) {response : Response}
    (among : response ∈ responses) {result : Result} (carried : response.result? = some result) :
    result.matchedDn = "" ∧ result.referral = [] := by
  cases row with
  | unbind | abandon target => cases among
  | search request unflagged =>
      -- an entry carries no result
      rcases List.mem_pair.mp among with rfl | rfl <;> cases carried
      exact ⟨rfl, rfl⟩
  | notUpgraded value fault failed =>
      rcases List.mem_pair.mp among with rfl | rfl <;> cases carried <;> exact ⟨rfl, rfl⟩
  | simpleBind _ _ | saslBind _ _ _ | abandonedSearch _ _ | modify _ _ | add _ _ | delete _
  | modifyDn _ _ _ | compare _ _ _ | upgraded _ _ | extended _ _ _ | unexpected _ =>
      obtain rfl := List.mem_singleton.mp among
      cases carried
      exact ⟨rfl, rfl⟩

/-! ## The table and the policy -/

namespace Policy

/-- The policy has every operation in its row of the table. -/
theorem answers_replies (flagged : Bool) (upgrade : Except TlsFault Unit) (message : Message) :
    Answers flagged upgrade message.operation ((replies flagged upgrade message).map (·.response)) := by
  obtain ⟨id, operation⟩ := message
  cases operation with
  | bind dn credentials =>
      cases credentials with
      | simple password => exact .simpleBind dn password
      | sasl mechanism octets => exact .saslBind dn mechanism octets
  | unbind => exact .unbind
  | search request =>
      cases flagged with
      | false => exact .search request rfl
      | true => exact .abandonedSearch request rfl
  | modify dn changes => exact .modify dn changes
  | add dn attributes => exact .add dn attributes
  | delete dn => exact .delete dn
  | modifyDn dn newRdn newSuperior => exact .modifyDn dn newRdn newSuperior
  | compare dn attr value => exact .compare dn attr value
  | abandon target => exact .abandon target
  | extended name value =>
      by_cases startTls : name = startTlsOid
      · subst startTls
        rw [replies_upgrade]
        cases upgrade with
        | ok _ => exact .upgraded value rfl
        | error fault => exact .notUpgraded value fault rfl
      · simp only [replies, if_neg startTls]
        exact .extended name value startTls
  | unexpected kind => exact .unexpected kind

/-- The policy has no reply but a response under the id of the request. -/
theorem replies_eq_map (flagged : Bool) (upgrade : Except TlsFault Unit) (message : Message) :
    replies flagged upgrade message =
      ((replies flagged upgrade message).map (·.response)).map (.of message.id) := by
  obtain ⟨id, operation⟩ := message
  cases operation with
  | bind dn credentials => cases credentials <;> rfl
  | search request => cases flagged <;> rfl
  | extended name value =>
      by_cases startTls : name = startTlsOid
      · subst startTls
        rw [replies_upgrade]
        cases upgrade <;> rfl
      · simp only [replies, if_neg startTls]
        rfl
  | unbind | modify _ _ | add _ _ | delete _ | modifyDn _ _ _ | compare _ _ _ | abandon _
  | unexpected _ => rfl

/-- The policy has plain replies only. -/
theorem plain_of_mem_replies {flagged : Bool} {upgrade : Except TlsFault Unit} {message : Message}
    {reply : Reply} (among : reply ∈ replies flagged upgrade message) : Plain message.id reply := by
  have row := answers_replies flagged upgrade message
  rw [replies_eq_map] at among
  obtain ⟨response, listed, rfl⟩ := List.mem_map.mp among
  exact ⟨rfl, rfl, fun result carried => row.result_empty listed carried⟩

end Policy

variable {σ σ' τ τ' : Type} [Client σ] [HasOutlet σ] [Storage τ] [Client σ'] [HasOutlet σ'] [Storage τ']

/-- Where writing works, every message is handled to its end. A message that is handled to its end is answered
as its row of the table has it, in plain replies; and any other responder, whatever has been stored and
whatever has happened on its connection, gives the same replies, provided that the same is true of the flag
and, where an upgrade is asked for, of what comes of it. -/
theorem handle_answers (responder : Responder) (message : Message) (client : σ) (storage : τ) :
    (HasOutlet.outlet client = .working →
      ∃ flow, (responder.handle message client storage).result = .ok flow) ∧
    ∀ flow, (responder.handle message client storage).result = .ok flow →
      let replies := Act.replies (responder.handle message client storage).acts
      (∀ reply ∈ replies, Plain message.id reply) ∧
      Answers (Client.isAbandoned message.id client) (Client.startTls client).1 message.operation
        (replies.map (·.response)) ∧
      ∀ (responder' : Responder) (client' : σ') (storage' : τ') (flow' : Flow),
        (responder'.handle message client' storage').result = .ok flow' →
        Client.isAbandoned message.id client' = Client.isAbandoned message.id client →
        (Policy.asksUpgrade message.operation = true →
          (Client.startTls client').1 = (Client.startTls client).1) →
        Act.replies (responder'.handle message client' storage').acts = replies := by
  constructor
  · intro working
    have room : (HasOutlet.outlet client).Allows (Policy.replies (Client.isAbandoned message.id client)
        (Client.startTls client).1 message).length := by
      rw [working]
      trivial
    exact ⟨_, (shows_handle responder message client storage room).result⟩
  · intro flow succeeds replies
    have same : replies = _ := (shows_handle responder message client storage (allows_of_ok succeeds)).replies
    refine ⟨?_, ?_, ?_⟩
    · intro reply among
      rw [same] at among
      exact Policy.plain_of_mem_replies among
    · rw [same]
      exact Policy.answers_replies _ _ message
    · intro responder' client' storage' flow' succeeds' flag upgrade
      rw [(shows_handle responder' message client' storage' (allows_of_ok succeeds')).replies, same, flag]
      cases asks : Policy.asksUpgrade message.operation with
      | true => rw [upgrade asks]
      | false => exact Policy.replies_of_no_upgrade asks _ _ _

/-- A search without a base finds its entry with a responder that has recorded nothing, and the same one with
another that has, while other requests are in flight. -/
theorem handle_answers_root_search :
    let responder : Responder := ⟨"t", ⟨"token", "now"⟩⟩
    let other : Responder := ⟨"u", ⟨"another", "later"⟩⟩
    let message : Message := ⟨7, .search ⟨"", 0, .present "cn", []⟩⟩
    let client := Scripted.fresh ⟨.v4 127 0 0 1, 4000, 0⟩
    let busy : Scripted := { client with inFlight := ⟨[(7, false), (8, true)]⟩ }
    let stored := Storage.Memory.empty.add "another" [0x7b, 0x7d]
    (HasOutlet.outlet client = .working ∧
        (responder.handle message client Storage.Memory.empty).result = .ok .proceed) ∧
      ((other.handle message busy stored).result = .ok .proceed ∧
        Client.isAbandoned message.id busy = Client.isAbandoned message.id client ∧
        Policy.asksUpgrade message.operation = false) ∧
      Answers false (.ok ()) message.operation
        ((Act.replies (responder.handle message client Storage.Memory.empty).acts).map (·.response)) ∧
      Act.replies (other.handle message busy stored).acts =
        Act.replies (responder.handle message client Storage.Memory.empty).acts := by
  intro responder other message client busy stored
  obtain ⟨ends, answered⟩ :=
    @handle_answers Scripted Scripted Storage.Memory Storage.Memory _ _ _ _ _ _ responder message client
      Storage.Memory.empty
  obtain ⟨flow, succeeds⟩ := ends rfl
  obtain ⟨_, row, same⟩ := answered flow succeeds
  refine ⟨⟨rfl, ?_⟩, ⟨?_, rfl, rfl⟩, row, ?_⟩
  · rfl
  · rfl
  · exact same other busy stored .proceed rfl rfl nofun

end LdapDecoy.Responder
