import LdapDecoy.Proofs.Responder.Ledger
import LdapDecoy.Proofs.Server.Turns
import LdapDecoy.Proofs.Server.Connection
import LdapDecoy.Proofs.Storage.Memory

/-!
# The account of what is recorded

Whatever a server records, in whatever order and however its store fails: each record is offered once, the log has
its capture and its refusal around the offer and nowhere else, and what is held is what was taken. This goes for runs
of single works, and for whole sessions.
-/
namespace LdapDecoy

/-! ## Connections are discreet -/

namespace Tls

theorem PrivateKey.check_aside (key : PrivateKey) : Event.AreAside key.check.2 := by
  have plain (level : Level) (message : String) : Event.AreAside [.plain level message] := by
    refine List.forall_mem_singleton.mpr ?_
    rintro (same | same) <;> cases same
  unfold check
  cases key with
  | rsa modulus exponent =>
      dsimp only
      split
      · exact List.forall_mem_nil _
      · exact plain _ _
  | elliptic curve scalar point =>
      dsimp only
      split
      · exact List.forall_mem_nil _
      · exact plain _ _
  | other algorithm body => exact plain _ _

theorem FileProvider.certificate_aside (provider : FileProvider) (tree : Os.Files) :
    Event.AreAside (provider.certificate tree).2 := by
  unfold certificate
  split
  · exact List.forall_mem_nil _
  · rename_i pair _
    have aside := pair.key.check_aside
    split <;> rename_i checked <;> rw [checked] at aside <;> exact aside

theorem Upgrader.select_aside (upgrader : Upgrader) (tree : Os.Files) :
    Event.AreAside (upgrader.select tree).2 := by
  unfold select
  split
  · exact List.forall_mem_nil _
  · rename_i provider _
    have aside := provider.certificate_aside tree
    split <;> rename_i given <;> rw [given] at aside
    · exact aside
    · exact List.forall_mem_append.mpr ⟨aside, List.forall_mem_singleton.mpr (by decide)⟩

theorem Upgrader.acceptor_aside (upgrader : Upgrader) (tree : Os.Files) :
    Event.AreAside (upgrader.acceptor tree).2 := by
  have selected := upgrader.select_aside tree
  unfold acceptor
  dsimp only
  split <;> exact selected

end Tls

namespace Server.Connection
open Responder

/-- What an upgrade logs before it touches the stream is all that it logs. -/
theorem upgrade_events (stream : Connection) :
    stream.upgrade.2 = (stream.upgrader.acceptor stream.tree).2 := by
  rcases answer : stream.upgrader.acceptor stream.tree with ⟨fault | pair, events⟩
  · rw [upgrade_unaccepted stream answer]
  rcases laid : stream.lay.1 with fault | _
  · rw [upgrade_unlaid stream answer laid]
  rcases shaken : stream.lay.2.shake pair [] with ⟨flaw | version, behind⟩
  · rw [upgrade_unshaken stream answer laid shaken]
  · rw [upgrade_shaken stream answer laid shaken]

theorem discard_aside (connection : Connection) : Event.AreAside connection.discard.2 := by
  unfold discard
  dsimp only
  split
  · exact List.forall_mem_nil _
  · exact List.forall_mem_singleton.mpr (by decide)

theorem startTls_aside (connection : Connection) : Event.AreAside connection.startTls.2.1 := by
  have discarded := connection.take.discard_aside
  have upgraded := connection.take.discard.1.upgrader.acceptor_aside connection.take.discard.1.tree
  rw [← upgrade_events] at upgraded
  unfold startTls
  dsimp only
  split
  · exact List.forall_mem_nil _
  · exact List.forall_mem_nil _
  · split <;> rename_i answer <;> rw [answer] at upgraded
    · exact List.forall_mem_append.mpr ⟨discarded, upgraded⟩
    · refine List.forall_mem_append.mpr ⟨List.forall_mem_append.mpr ⟨discarded, upgraded⟩, ?_⟩
      split
      · exact List.forall_mem_nil _
      · exact List.forall_mem_singleton.mpr (by decide)

instance : Discreet Connection := ⟨startTls_aside⟩

end Server.Connection

/-! ## Sessions -/

namespace Server
open Ldap Responder

variable {τ : Type} [Storage τ]

theorem note_ledger (responder : Responder) (before : String) (connection : Connection) (after : String)
    (storage : τ) :
    Ledger storage (note responder before connection after storage).1
      (note responder before connection after storage).2 :=
  responder.recorder.ledger_log .print _ storage

namespace Connection

theorem handle_ledger (responder : Responder) (message : Message) (connection : Connection) (storage : τ) :
    Ledger storage (connection.handle responder message storage).acts
      (connection.handle responder message storage).storage :=
  Dialogue.ledger_run responder.recorder (Dialogue.plan_isDiscreet responder.domain message)
    (connection.begin message.id) storage

theorem turn_ledger (responder : Responder) (item : Item) (connection : Connection) (storage : τ) :
    Ledger storage (connection.turn responder item storage).1.acts
      (connection.turn responder item storage).1.storage := by
  cases item with
  | ended => exact .closed
  | unreadable fault => exact note_ledger responder _ connection _ storage
  | malformed malformation => exact note_ledger responder _ connection _ storage
  | message message =>
      have handled := handle_ledger responder message connection storage
      cases result : (connection.handle responder message storage).result with
      | ok flow =>
          rw [turn_of_ok result]
          exact handled
      | error fault =>
          rw [turn_of_error result]
          exact handled.append (note_ledger responder _ _ _ _)

theorem advance_ledger (responder : Responder) (connection : Connection) (storage : τ) :
    Ledger storage (connection.advance responder storage).1.acts
      (connection.advance responder storage).1.storage :=
  turn_ledger responder connection.next.1 connection.next.2 storage

/-- Turn by turn, a session keeps the ledger of storage. -/
theorem Takes.ledger {responder : Responder} {turns : Nat} {connection : Connection} {storage : τ}
    {served : Served τ} (takes : Takes responder turns connection storage served) :
    Ledger storage served.acts served.storage := by
  induction takes with
  | @last connection storage served stops =>
      have turned := advance_ledger responder connection storage
      rw [stops] at turned
      exact turned
  | @more turns connection storage served behind goesOn rest ih =>
      have turned := advance_ledger responder connection storage
      rw [goesOn] at turned
      exact turned.append ih

theorem session_ledger (responder : Responder) (connection : Connection) (storage : τ) :
    Ledger storage (connection.session responder storage).acts
      (connection.session responder storage).storage := by
  obtain ⟨_, _, takes⟩ := exists_takes responder connection (connection.greet responder storage).2
  have greeted := note_ledger responder "LDAP client " connection " connected" storage
  exact (greeted.append takes.ledger).append (note_ledger responder "LDAP client " _ " disconnected" _)

/-- A session over the store of a running daemon, in a file or in memory, which fails call by call in any pattern.
What is offered is what would be offered to any other store, and each record once; the log has its capture before the
offer and its refusal behind it; and what is held has changed by what has been taken. -/
theorem session_accounted (responder : Responder) (connection : Connection)
    (storage : Storage.Unreliable Storage.Store) :
    let served := connection.session responder storage
    Act.offers served.acts = Act.offers (connection.session responder Storage.Memory.empty).acts ∧
    Ledger storage served.acts served.storage ∧
    (∀ front, front <+: served.acts → Act.Balanced front) ∧
    Act.inHand served.acts = 0 ∧
    served.storage.held = Storage.addAll (Act.stored served.acts) storage.held := by
  intro served
  have ledger : Ledger storage served.acts served.storage := session_ledger responder connection storage
  exact ⟨(session_elsewhere responder connection Storage.Memory.empty storage).offers, ledger,
    fun front begins => ledger.balanced begins, ledger.settled, ledger.held_eq⟩

end Connection

end Server

/-! ## Runs -/

namespace Responder
open Ldap
open Storage (Unreliable Steady)

/-- What a server does that it may record: a call of a recorder, a message of a client in whatever state, or a
diagnostic of its own. -/
inductive Work (σ : Type) where
  | called (recorder : Recorder) (call : Recorder.Call)
  | handled (responder : Responder) (client : σ) (message : Message)
  | logged (recorder : Recorder) (severity : Recorder.Severity) (message : String)

namespace Work

variable {σ τ : Type} [Client σ] [Storage τ]

def perform (work : Work σ) (storage : τ) : List Act × τ :=
  match work with
  | called recorder call => call.make recorder storage
  | handled responder client message =>
    let outcome := responder.handle message client storage
    (outcome.acts, outcome.storage)
  | logged recorder severity message => recorder.log severity message storage

/-- Works one after the other. -/
def performAll : List (Work σ) → τ → List Act × τ
  | [], storage => ([], storage)
  | work :: works, storage =>
    let (acts, storage) := work.perform storage
    let (more, storage) := performAll works storage
    (acts ++ more, storage)

/-- The offers of the records that a work has to make: for a message, those of its policy, if all replies to it can be
written, and none otherwise. Storage has no say in them. -/
def due [HasOutlet σ] : Work σ → List Offer
  | called recorder call => [call.offer recorder]
  | handled responder client message =>
    let upgrade := (Client.startTls client).1
    let replies := Policy.replies (Client.isAbandoned message.id client) upgrade message
    if (HasOutlet.outlet client).Allows replies.length then
      Policy.offers responder (Client.remote client).text upgrade message.operation
    else []
  | logged recorder _ message => [recorder.internal message]

/-- A work offers what is due. -/
theorem offers_perform [HasOutlet σ] (work : Work σ) (storage : τ) :
    Act.offers (work.perform storage).1 = work.due := by
  cases work with
  | called recorder call =>
      cases call with
      | identified identifier request remote => exact recorder.offers_record (some identifier) request remote storage
      | unidentified request remote => exact recorder.offers_record none request remote storage
      | internal message => exact recorder.offers_record none message "" storage
  | handled responder client message =>
      simp only [due]
      split
      · rename_i allows
        exact (shows_handle responder message client storage allows).offers
      · rename_i short
        cases limit : HasOutlet.outlet client with
        | working => exact absurd (limit ▸ trivial) short
        | failing left fault =>
            rw [limit] at short
            exact (handle_short responder message client storage left fault limit (Nat.lt_of_not_le short)).2.2.1
  | logged recorder severity message => exact recorder.offers_log severity message storage

theorem ledger_perform [Discreet σ] (work : Work σ) (storage : τ) :
    Ledger storage (work.perform storage).1 (work.perform storage).2 := by
  cases work with
  | called recorder call => exact recorder.ledger_make call storage
  | handled responder client message =>
      have discreet := Dialogue.plan_isDiscreet responder.domain message
      exact Dialogue.ledger_run responder.recorder discreet client storage
  | logged recorder severity message => exact recorder.ledger_log severity message storage

theorem offers_performAll [HasOutlet σ] (works : List (Work σ)) (storage : τ) :
    Act.offers (performAll works storage).1 = works.flatMap due := by
  induction works generalizing storage with
  | nil => rfl
  | cons work works ih =>
      rw [performAll, List.flatMap_cons, ← work.offers_perform storage, ← ih (work.perform storage).2]
      exact Act.offers_append _ _

/-- A run of works keeps the ledger of storage. -/
theorem ledger_performAll [Discreet σ] (works : List (Work σ)) (storage : τ) :
    Ledger storage (performAll works storage).1 (performAll works storage).2 := by
  induction works generalizing storage with
  | nil => exact .closed
  | cons work works ih => exact (work.ledger_perform storage).append (ih (work.perform storage).2)

end Work

/-- Along a run over a store that fails call by call in any pattern: what is due is offered, each record once and in
order; each offer stands in the log between its capture and, where it is refused, its refusal; at every point the
captures are as many as the records that are stored, refused and in hand, of which there are none at the end; and
what is held has changed by what has been taken, not by what has been refused. -/
theorem performAll_accounted {σ τ : Type} [Client σ] [HasOutlet σ] [Discreet σ] [Storage τ] [Steady τ]
    (works : List (Work σ)) (storage : Unreliable τ) :
    let acts := (Work.performAll works storage).1
    let behind := (Work.performAll works storage).2
    Act.offers acts = works.flatMap Work.due ∧
    behind = Storage.addAll (works.flatMap Work.due) storage ∧
    Ledger storage acts behind ∧
    (∀ front, front <+: acts →
      (Act.events front).count (.tagged .interactionDebug "LDAP Interaction") =
        (Act.stored front).length +
          (Act.events front).count (.tagged .interactionWarn "Could not store ldap interaction") +
          Act.inHand front) ∧
    Act.inHand acts = 0 ∧
    behind.held = Storage.addAll (Act.stored acts) storage.held := by
  intro acts behind
  have offers : Act.offers acts = works.flatMap Work.due := Work.offers_performAll works storage
  have ledger : Ledger storage acts behind := Work.ledger_performAll works storage
  refine ⟨offers, ?_, ledger, ?_, ledger.settled, ledger.held_eq⟩
  · rw [← offers]
    exact ledger.storage_eq
  · intro front begins
    exact ledger.balanced begins

/-- A diagnostic and the first record of a probe's search are refused; the second record of the search, and a
diagnostic that reads as a capture does, are stored. -/
theorem performAll_refused_twice :
    let recorder : Recorder := ⟨"token", "now"⟩
    let client := Scripted.fresh ⟨.v4 127 0 0 1, 4000, 0⟩
    let probe : Message :=
      ⟨7, .search ⟨"c59e3crp82ke7bcnedq0cfjqdpeyyyyyy.t", 0, .present "cn", ["mail"]⟩⟩
    let works : List (Work Scripted) :=
      [.logged recorder .panic "died", .handled ⟨"t", recorder⟩ client probe,
        .called recorder (.internal "LDAP Interaction")]
    let down := some (StorageFault.unavailable "down")
    let storage : Unreliable Storage.Memory := ⟨.empty, [down, down]⟩
    let run := Work.performAll works storage
    (Act.offers run.1).map (fun offer => (offer.kind, offer.key)) =
        [(.token, "token"), (.correlation, "c59e3crp82ke7bcnedq0"), (.token, "token"), (.token, "token")] ∧
      (Act.events run.1).count (.tagged .interactionDebug "LDAP Interaction") = 4 ∧
      (Act.events run.1).count (.tagged .interactionWarn "Could not store ldap interaction") = 2 ∧
      (Act.stored run.1).length = 2 ∧ run.2.held.size = 2 := by
  intro recorder client probe works down storage run
  obtain ⟨offers, _, _, balanced, settled, held⟩ := performAll_accounted works storage
  have due : (works.flatMap Work.due).map (fun offer => (offer.kind, offer.key)) =
      [(.token, "token"), (.correlation, "c59e3crp82ke7bcnedq0"), (.token, "token"), (.token, "token")] := by
    decide +kernel
  have stored : (Act.stored run.1).length = 2 := by decide +kernel
  have refused :
      (Act.events run.1).count (.tagged .interactionWarn "Could not store ldap interaction") = 2 := by
    decide +kernel
  refine ⟨(congrArg _ offers).trans due, ?_, refused, stored, ?_⟩
  · rw [balanced run.1 (List.prefix_refl run.1), stored, refused, settled]
  · rw [held]
    exact (Storage.Memory.size_addAll_empty _).trans stored

end Responder

end LdapDecoy
