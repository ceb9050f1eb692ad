import LdapDecoy.Proofs.Responder.Outlet

/-!
# What a message is answered with

For each operation its replies, its transcript and the offers to storage, without the order in which they
are made, and that a dialogue whose replies can all be written makes exactly these.
-/
namespace LdapDecoy.Responder
open Ldap

namespace Policy

/-- The replies to a search: an entry unless it has been abandoned, and that it is done. -/
def searchReplies (abandoned : Bool) (id : MessageId) (request : Search) : List Reply :=
  let done := .of id (.searchDone .success)
  if abandoned then [done]
  else [.of id (.searchEntry (entryName request.base) entryAttributes), done]

/-- The replies to a request for an upgrade: that it can begin, and that it has failed where it has. -/
def upgradeReplies (upgrade : Except TlsFault Unit) (id : MessageId) : List Reply :=
  let ready := .of id (.extended .success (some startTlsOid) none)
  match upgrade with
  | .ok () => [ready]
  | .error fault =>
    [ready,
      .of id (.extended (.of .operationsError ("StartTLS Handshake error : \"" ++ fault.message ++ "\""))
        (some startTlsOid) none)]

/-- The replies to a message that may have been abandoned, where an upgrade would come to `upgrade`. -/
def replies (abandoned : Bool) (upgrade : Except TlsFault Unit) (message : Message) : List Reply :=
  match message.operation with
  | .bind _ (.simple _) => [.of message.id (.bind .success none)]
  | .bind _ (.sasl _ _) => [.of message.id (.bind (.of .success defaultBind) none)]
  | .unbind | .abandon _ => []
  | .search request => searchReplies abandoned message.id request
  | .modify _ _ => [.of message.id (.modify .success)]
  | .add _ _ => [.of message.id (.add .success)]
  | .delete _ => [.of message.id (.delete .success)]
  | .modifyDn _ _ _ => [.of message.id (.modifyDn (.of .unwillingToPerform notImplemented))]
  | .compare _ _ _ => [.of message.id (.compare (.of .compareTrue ""))]
  | .extended name _ =>
    if name = startTlsOid then upgradeReplies upgrade message.id
    else [.of message.id (.extended .success none none)]
  | .unexpected _ =>
    [.of message.id (.extended (.of .unwillingToPerform notImplemented) none none)]

/-- The transcript of an operation. -/
def transcript (upgrade : Except TlsFault Unit) (operation : Operation) : String :=
  match operation with
  | .bind dn (.simple password) => Transcript.bind dn password
  | .search request => Transcript.search request
  | .modify dn changes => Transcript.modify dn changes
  | .add dn attributes => Transcript.add dn attributes
  | .delete dn => Transcript.delete dn
  | .compare dn attr value => Transcript.compare dn attr value
  | .abandon target => Transcript.abandon target
  | .extended name value =>
    if name = startTlsOid then Transcript.startTls upgrade
    else if name = whoAmIOid then Transcript.whoAmI
    else Transcript.extended name value
  | .bind _ (.sasl _ _) | .unbind | .modifyDn _ _ _ | .unexpected _ => Transcript.other operation

/-- The identifier that an operation carries. -/
def subject (domain : String) : Operation → Option Correlation.Identifier
  | .search request => Correlation.extract domain request.base
  | _ => none

/-- The offers of a transcript: one under the identifier, if there is one, and then one under the token. -/
def filed (recorder : Recorder) (subject : Option Correlation.Identifier) (text remote : String) :
    List Offer :=
  let unidentified := ⟨.token, recorder.token, Record.line ⟨"", "", text, remote, recorder.time⟩⟩
  match subject with
  | some identifier =>
    [⟨.correlation, identifier.key,
      Record.line ⟨identifier.uniqueId, identifier.fullId, text, remote, recorder.time⟩⟩, unidentified]
  | none => [unidentified]

/-- The offers for a message from `remote`. -/
def offers (responder : Responder) (remote : String) (upgrade : Except TlsFault Unit)
    (operation : Operation) : List Offer :=
  match operation with
  | .unbind => []
  | _ => filed responder.recorder (subject responder.domain operation) (transcript upgrade operation) remote

/-- Each of the offers of a transcript is one of a record of it. -/
theorem exists_of_mem_filed {recorder : Recorder} {subject : Option Correlation.Identifier} {text remote : String}
    {offer : Offer} (among : offer ∈ filed recorder subject text remote) :
    ∃ key, offer = recorder.offer key text remote := by
  cases subject with
  | none => exact ⟨none, List.mem_singleton.mp among⟩
  | some identifier =>
      cases among with
      | head => exact ⟨some identifier, rfl⟩
      | tail _ unidentified => exact ⟨none, List.mem_singleton.mp unidentified⟩

/-- Whatever is offered for a message is a record of its transcript. -/
theorem exists_of_mem_offers {responder : Responder} {remote : String} {upgrade : Except TlsFault Unit}
    {operation : Operation} {offer : Offer} (among : offer ∈ offers responder remote upgrade operation) :
    ∃ key, offer = responder.recorder.offer key (transcript upgrade operation) remote := by
  have isFiled : offer ∈ filed responder.recorder (subject responder.domain operation)
      (transcript upgrade operation) remote := by
    cases operation with
    | unbind => cases among
    | bind _ _ | search _ | modify _ _ | add _ _ | delete _ | modifyDn _ _ _ | compare _ _ _ | abandon _
    | extended _ _ | unexpected _ => exact among
  exact exists_of_mem_filed isFiled

/-- Whether the connection goes on. -/
def flow : Operation → Flow
  | .unbind => .close
  | _ => .proceed

/-- Whether an operation asks for an upgrade. -/
def asksUpgrade : Operation → Bool
  | .extended name _ => name = startTlsOid
  | _ => false

theorem replies_upgrade (abandoned : Bool) (upgrade : Except TlsFault Unit) (id : MessageId)
    (value : Option Bytes) :
    replies abandoned upgrade ⟨id, .extended startTlsOid value⟩ = upgradeReplies upgrade id := by
  simp only [replies, if_true]

theorem replies_of_no_upgrade {message : Message} (other : asksUpgrade message.operation = false)
    (abandoned : Bool) (upgrade upgrade' : Except TlsFault Unit) :
    replies abandoned upgrade message = replies abandoned upgrade' message := by
  obtain ⟨id, operation⟩ := message
  cases operation with
  | extended name value =>
      have noUpgrade : ¬ name = startTlsOid := of_decide_eq_false other
      simp only [replies, if_neg noUpgrade]
  | bind dn credentials => cases credentials <;> rfl
  | unbind | search _ | modify _ _ | add _ _ | delete _ | modifyDn _ _ _ | compare _ _ _ | abandon _
  | unexpected _ => rfl

theorem offers_of_no_upgrade {operation : Operation} (other : asksUpgrade operation = false)
    (responder : Responder) (remote : String) (upgrade upgrade' : Except TlsFault Unit) :
    offers responder remote upgrade operation = offers responder remote upgrade' operation := by
  cases operation with
  | extended name value =>
      have noUpgrade : ¬ name = startTlsOid := of_decide_eq_false other
      simp only [offers, transcript, if_neg noUpgrade]
  | bind dn credentials => cases credentials <;> rfl
  | unbind | search _ | modify _ _ | add _ _ | delete _ | modifyDn _ _ _ | compare _ _ _ | abandon _
  | unexpected _ => rfl

end Policy

namespace Dialogue

theorem searched_neverUpgrades (domain : String) (request : Search) :
    (searched domain request).NeverUpgrades := by
  unfold searched
  cases Correlation.extract domain request.base <;> trivial

/-- A message that does not ask for an upgrade does not get one. -/
theorem plan_neverUpgrades {message : Message} (other : Policy.asksUpgrade message.operation = false)
    (domain : String) : (plan domain message).NeverUpgrades := by
  obtain ⟨id, operation⟩ := message
  cases operation with
  | bind dn credentials => cases credentials <;> trivial
  | search request =>
      have never := searched_neverUpgrades domain request
      exact ⟨never, never⟩
  | abandon target => exact ⟨trivial, trivial⟩
  | extended name value =>
      have noUpgrade : ¬ name = startTlsOid := of_decide_eq_false other
      change (Dialogue.extended id name value).NeverUpgrades
      rw [Dialogue.extended, if_neg noUpgrade]
      trivial
  | unbind | modify _ _ | add _ _ | delete _ | modifyDn _ _ _ | compare _ _ _ | unexpected _ => trivial

theorem searched_neverAbandons (domain : String) (request : Search) :
    (searched domain request).NeverAbandons := by
  unfold searched
  cases Correlation.extract domain request.base <;> trivial

theorem upgrade_neverAbandons (id : MessageId) : (upgrade id).NeverAbandons := by
  intro upgraded
  cases upgraded <;> trivial

/-- Only a request to abandon abandons one. -/
theorem plan_neverAbandons {message : Message} (other : ∀ target, message.operation ≠ .abandon target)
    (domain : String) : (plan domain message).NeverAbandons := by
  obtain ⟨id, operation⟩ := message
  cases operation with
  | bind dn credentials => cases credentials <;> trivial
  | search request =>
      have never := searched_neverAbandons domain request
      exact ⟨never, never⟩
  | abandon target => exact absurd rfl (other target)
  | extended name value =>
      change (Dialogue.extended id name value).NeverAbandons
      unfold Dialogue.extended
      split
      · exact upgrade_neverAbandons id
      · trivial
  | unbind | modify _ _ | add _ _ | delete _ | modifyDn _ _ _ | compare _ _ _ | unexpected _ => trivial

theorem plan_upgrade (domain : String) (id : MessageId) (value : Option Bytes) :
    plan domain ⟨id, .extended startTlsOid value⟩ =
      .log (.tagged .securityInfo "LDAP client") (upgrade id) := by
  rw [plan, script, extended, if_pos rfl]

end Dialogue

/-- What an outcome shows: how the connection goes on, the replies and the offers. -/
structure Shows {σ τ : Type} (outcome : Outcome σ τ) (flow : Flow) (replies : List Reply)
    (offers : List Offer) : Prop where
  result : outcome.result = .ok flow
  replies : Act.replies outcome.acts = replies
  offers : Act.offers outcome.acts = offers

namespace Shows

variable {σ τ : Type} {outcome : Outcome σ τ} {flow : Flow} {replies : List Reply} {offers : List Offer}

theorem logged (shows : Shows outcome flow replies offers) (event : Event) :
    Shows (outcome.after [.logged event]) flow replies offers :=
  ⟨shows.result, shows.replies, shows.offers⟩

theorem replied (shows : Shows outcome flow replies offers) (reply : Reply) :
    Shows (outcome.after [.replied reply]) flow (reply :: replies) offers :=
  ⟨shows.result, congrArg (reply :: ·) shows.replies, shows.offers⟩

theorem events (shows : Shows outcome flow replies offers) (events : List Event) :
    Shows (outcome.after (events.map .logged)) flow replies offers := by
  refine ⟨shows.result, ?_, ?_⟩
  · rw [Outcome.after_acts, Act.replies_append, Act.replies_map_logged, shows.replies]
    rfl
  · rw [Outcome.after_acts, Act.offers_append, Act.offers_map_logged, shows.offers]
    rfl

theorem recorded [Storage τ] (shows : Shows outcome flow replies offers) (recorder : Recorder)
    (subject : Option Correlation.Identifier) (request remote : String) (storage : τ) :
    Shows (outcome.after (recorder.record subject request remote storage).1) flow replies
      (recorder.offer subject request remote :: offers) := by
  refine ⟨shows.result, ?_, ?_⟩
  · rw [Outcome.after_acts, Act.replies_append, Recorder.replies_record, shows.replies]
    rfl
  · rw [Outcome.after_acts, Act.offers_append, Recorder.offers_record, shows.offers]
    rfl

end Shows

namespace Dialogue
open HasOutlet (through)

variable {σ τ : Type} [Client σ] [HasOutlet σ] [Storage τ]
variable (client : σ) (storage : τ)

theorem shows_recorded (recorder : Recorder) (transcript : String) :
    Shows ((recorded transcript).run recorder (through .working client) storage) .proceed []
      [recorder.offer none transcript (Client.remote client).text] := by
  rw [recorded, run_record, HasOutlet.remote_through]
  exact Shows.recorded ⟨rfl, rfl, rfl⟩ recorder none transcript _ storage

theorem shows_answered (recorder : Recorder) (id : MessageId) (response : Response) (transcript : String) :
    Shows ((answered id response transcript).run recorder (through .working client) storage) .proceed
      [.of id response] [recorder.offer none transcript (Client.remote client).text] := by
  rw [answered, run_reply_working]
  exact (shows_recorded client storage recorder transcript).replied _

theorem shows_unscripted (recorder : Recorder) (id : MessageId) (operation : Operation)
    (response : Response) :
    Shows ((unscripted id operation response).run recorder (through .working client) storage) .proceed
      [.of id response]
      [recorder.offer none (Transcript.other operation) (Client.remote client).text] := by
  rw [unscripted, run_log]
  exact (shows_answered client storage recorder id response _).logged _

theorem shows_searched (recorder : Recorder) (domain : String) (request : Search) :
    Shows ((searched domain request).run recorder (through .working client) storage) .proceed []
      (Policy.filed recorder (Correlation.extract domain request.base) (Transcript.search request)
        (Client.remote client).text) := by
  unfold searched
  cases Correlation.extract domain request.base with
  | none => exact shows_recorded client storage recorder (Transcript.search request)
  | some identifier =>
      have unidentified := shows_recorded client
        (recorder.record (some identifier) (Transcript.search request) (Client.remote client).text storage).2
        recorder (Transcript.search request)
      rw [run_log, run_record, HasOutlet.remote_through]
      exact (unidentified.recorded recorder (some identifier) _ _ storage).logged _

theorem shows_search (recorder : Recorder) (domain : String) (id : MessageId) (request : Search) :
    Shows ((search domain id request).run recorder (through .working client) storage) .proceed
      (Policy.searchReplies (Client.isAbandoned id client) id request)
      (Policy.filed recorder (Correlation.extract domain request.base) (Transcript.search request)
        (Client.remote client).text) := by
  have finished := (shows_searched client storage recorder domain request).replied
    (.of id (.searchDone .success))
  rw [search, run_ifAbandoned_through]
  cases Client.isAbandoned id client with
  | true =>
      rw [if_pos rfl, run_log, run_reply_working]
      exact finished.logged _
  | false =>
      rw [if_neg Bool.false_ne_true, run_reply_working, run_reply_working]
      exact finished.replied _

theorem shows_abandoning (recorder : Recorder) (target : MessageId) :
    Shows ((abandoning target).run recorder (through .working client) storage) .proceed []
      [recorder.offer none (Transcript.abandon target) (Client.remote client).text] := by
  have finished := shows_recorded (Client.abandon target client).2 storage recorder
    (Transcript.abandon target)
  rw [HasOutlet.remote_abandon] at finished
  rw [abandoning, run_abandon_through]
  split <;> exact finished.logged _

theorem shows_upgrade (recorder : Recorder) (id : MessageId) :
    Shows ((upgrade id).run recorder (through .working client) storage) .proceed
      (Policy.upgradeReplies (Client.startTls client).1 id)
      [recorder.offer none (Transcript.startTls (Client.startTls client).1) (Client.remote client).text] := by
  have finished (transcript : String) :=
    shows_recorded (Client.startTls client).2.2 storage recorder transcript
  rw [HasOutlet.remote_startTls] at finished
  rw [upgrade, run_reply_working, run_startTls_through]
  cases (Client.startTls client).1 with
  | ok _ => exact (((finished _).logged _).events _).replied _
  | error fault =>
      rw [run_log, run_reply_working]
      exact ((((finished _).replied _).logged _).events _).replied _

/-- Behind an upgrade the client is as the upgrade has left it. -/
theorem client_upgrade (recorder : Recorder) (id : MessageId) :
    ((upgrade id).run recorder (through .working client) storage).client =
      through .working (Client.startTls client).2.2 := by
  rw [upgrade, run_reply_working, run_startTls_through]
  cases (Client.startTls client).1 with
  | ok _ => rfl
  | error fault =>
      rw [run_log, run_reply_working]
      rfl

/-- A message whose replies can all be written is answered and recorded as the policy has it. -/
theorem shows_plan (responder : Responder) (message : Message) :
    Shows ((plan responder.domain message).run responder.recorder (through .working client) storage)
      (Policy.flow message.operation)
      (Policy.replies (Client.isAbandoned message.id client) (Client.startTls client).1 message)
      (Policy.offers responder (Client.remote client).text (Client.startTls client).1
        message.operation) := by
  rw [plan, run_log]
  refine Shows.logged ?_ _
  obtain ⟨id, operation⟩ := message
  cases operation with
  | bind dn credentials =>
      cases credentials with
      | simple password => exact shows_answered client storage responder.recorder id _ _
      | sasl mechanism octets => exact shows_unscripted client storage responder.recorder id _ _
  | unbind => exact Shows.logged ⟨rfl, rfl, rfl⟩ _
  | search request => exact shows_search client storage responder.recorder responder.domain id request
  | modify dn changes => exact shows_answered client storage responder.recorder id _ _
  | add dn attributes => exact shows_answered client storage responder.recorder id _ _
  | delete dn => exact shows_answered client storage responder.recorder id _ _
  | modifyDn dn newRdn newSuperior => exact shows_unscripted client storage responder.recorder id _ _
  | compare dn attr value => exact shows_answered client storage responder.recorder id _ _
  | abandon target => exact shows_abandoning client storage responder.recorder target
  | extended name value =>
      change Shows ((Dialogue.extended id name value).run _ _ _) _ _ _
      by_cases startTls : name = startTlsOid
      · simp only [Dialogue.extended, Policy.replies, Policy.offers, Policy.transcript, if_pos startTls]
        exact shows_upgrade client storage responder.recorder id
      · simp only [Dialogue.extended, Policy.replies, Policy.offers, Policy.transcript, if_neg startTls]
        exact shows_answered client storage responder.recorder id _ _
  | unexpected kind => exact shows_unscripted client storage responder.recorder id _ _

end Dialogue

end LdapDecoy.Responder
