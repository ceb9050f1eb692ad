import LdapDecoy.Proofs.Responder.Deeds
import LdapDecoy.Proofs.Server.Connection
import LdapDecoy.Proofs.Server.Stream
import LdapDecoy.Proofs.Server.Turns

/-!
# The account of a session

What a whole session records and answers, read off the stream that the client sends: for each item, up to the
one with which the session ends, what the responder does about it alone. Between two messages nothing is in
flight, so that no message has an influence on the next one.
-/
namespace LdapDecoy.Server
open Ldap Responder

/-- The record of a diagnostic about a client. -/
def about (responder : Responder) (remote : Net.Endpoint) (what : String) : Offer :=
  responder.recorder.internal ("LDAP client " ++ remote.text ++ what)

/-- What the responder does about a message that nothing precedes. -/
def alone (responder : Responder) (remote : Net.Endpoint) (message : Message) :
    Outcome Scripted Storage.Memory :=
  responder.handle message (Scripted.fresh remote) Storage.Memory.empty

namespace Connection.Item

/-- Whether a session ends with an item. -/
def isLast : Item → Bool
  | .message ⟨_, .unbind⟩ | .unreadable _ | .ended => true
  | .message _ | .malformed _ => false

theorem isLast_of_unconsumed {item : Item} (unconsumed : item.isConsumed = false) :
    item.isLast = true := by
  cases item with
  | message _ | malformed _ => cases unconsumed
  | unreadable _ | ended => rfl

/-- Whether an item asks for an upgrade. -/
def asksUpgrade : Item → Bool
  | .message request => Policy.asksUpgrade request.operation
  | .malformed _ | .unreadable _ | .ended => false

theorem noUpgrade_of_last {item : Item} (last : item.isLast = true) : item.asksUpgrade = false := by
  cases item with
  | malformed _ | unreadable _ | ended => rfl
  | message message =>
      obtain ⟨id, operation⟩ := message
      cases operation with
      | unbind => rfl
      | bind _ _ | search _ | modify _ _ | add _ _ | delete _ | modifyDn _ _ _ | compare _ _ _ | abandon _
      | extended _ _ | unexpected _ => cases last

/-- The records of an item. -/
def offers (responder : Responder) (remote : Net.Endpoint) : Item → List Offer
  | .message request => Act.offers (alone responder remote request).acts
  | .malformed flaw =>
    let fault := SessionFault.malformed flaw.message
    [about responder remote (" sent an invalid message: " ++ fault.message)]
  | .unreadable fault => [about responder remote (" sent unreadable data: " ++ fault.message)]
  | .ended => []

/-- The replies to an item. -/
def replies (responder : Responder) (remote : Net.Endpoint) : Item → List Reply
  | .message request => Act.replies (alone responder remote request).acts
  | .malformed _ | .unreadable _ | .ended => []

end Connection.Item

/-- The items up to the first with which a session ends. -/
def Stream.heard : List Connection.Item → List Connection.Item
  | [] => []
  | item :: items => if item.isLast then [item] else item :: heard items

theorem Stream.heard_of_last {item : Connection.Item} (last : item.isLast = true)
    (items : List Connection.Item) : heard (item :: items) = [item] :=
  if_pos last

theorem Stream.heard_of_not_last {item : Connection.Item} (notLast : item.isLast = false)
    (items : List Connection.Item) : heard (item :: items) = item :: heard items :=
  if_neg (Bool.eq_false_iff.mp notLast)

namespace Connection

variable {τ : Type} [Storage τ]

/-! ## One turn -/

/-- No request stays in flight when it has been handled. -/
theorem handle_idle (responder : Responder) (message : Message) {connection : Connection}
    (idle : connection.inFlight = .none) (storage : τ) :
    (connection.handle responder message storage).client.inFlight = .none := by
  apply InFlight.finish_of_ids
  rw [handle_ids]
  change (connection.inFlight.begin message.id).ids = _
  rw [idle]
  rfl

/-- A message that asks for no upgrade is handled as if nothing preceded it, unless a reply cannot be written. -/
theorem handle_alone (responder : Responder) {message : Message}
    (other : Policy.asksUpgrade message.operation = false) {connection : Connection} {storage : τ} {flow : Flow}
    (succeeds : (connection.handle responder message storage).result = .ok flow) :
    Shows (connection.handle responder message storage) (Policy.flow message.operation)
      (Act.replies (alone responder connection.remote message).acts)
      (Act.offers (alone responder connection.remote message).acts) := by
  have unabandoned : (connection.begin message.id).inFlight.isAbandoned message.id = false :=
    connection.inFlight.isAbandoned_begin message.id
  have handled := shows_handle responder message (connection.begin message.id) storage
    (allows_of_ok succeeds)
  have expected := shows_handle responder message (Scripted.fresh connection.remote)
    Storage.Memory.empty trivial
  refine ⟨handled.result, handled.replies.trans ?_, handled.offers.trans ?_⟩
  · refine Eq.trans ?_ expected.replies.symm
    change Policy.replies ((connection.begin message.id).inFlight.isAbandoned message.id) _ message = _
    rw [unabandoned]
    exact Policy.replies_of_no_upgrade other false _ _
  · refine Eq.trans ?_ expected.offers.symm
    exact Policy.offers_of_no_upgrade other responder _ _ _

section
variable {connection : Connection} (idle : connection.inFlight = .none)
  (working : connection.outlet = .working)

include idle working

/-- A message that asks for no upgrade leaves a connection as it was, when nothing is in flight. -/
theorem handle_client (responder : Responder) {message : Message}
    (other : Policy.asksUpgrade message.operation = false) (storage : τ) :
    (connection.handle responder message storage).client = connection := by
  let begun := connection.begin message.id
  let behind := (connection.handle responder message storage).client
  have never := Dialogue.plan_neverUpgrades other responder.domain
  have idle' : behind.inFlight = .none := handle_idle responder message idle storage
  have working' : behind.outlet = .working :=
    Outlet.fault?_eq_none.mp ((handle_fault? responder message begun storage).trans
      (Outlet.fault?_eq_none.mpr working))
  -- everything but the table of requests and the outlet, which have been seen to by themselves
  have rest : { behind with inFlight := .none, outlet := .working } =
      { connection with inFlight := .none, outlet := .working } :=
    Dialogue.run_keeps responder.recorder begun storage
      (fun c => { c with inFlight := .none, outlet := .working }) (fun _ _ => rfl)
      (.inr fun _ _ => rfl) (.inl never)
  calc behind
    _ = { behind with inFlight := .none, outlet := .working } := by rw [← idle', ← working']
    _ = { connection with inFlight := .none, outlet := .working } := rest
    _ = connection := by rw [← idle, ← working]

omit idle in
/-- A message is handled to its end where replies can be written. -/
theorem handle_succeeds (responder : Responder) (message : Message) (storage : τ) :
    (connection.handle responder message storage).result = .ok (Policy.flow message.operation) := by
  have allows (count : Nat) : (connection.begin message.id).outlet.Allows count := by
    change connection.outlet.Allows count
    rw [working]
    trivial
  exact (shows_handle responder message (connection.begin message.id) storage (allows _)).result

/-- What comes of an item shows in its replies and its records, and the connection stays as it was. -/
theorem turn_account (responder : Responder) {item : Item} (other : item.asksUpgrade = false)
    (storage : τ) :
    (connection.turn responder item storage).2 = !item.isLast ∧
      (connection.turn responder item storage).1.connection = connection ∧
      Act.offers (connection.turn responder item storage).1.acts =
        item.offers responder connection.remote ∧
      Act.replies (connection.turn responder item storage).1.acts =
        item.replies responder connection.remote := by
  cases item with
  | ended => exact ⟨rfl, rfl, rfl, rfl⟩
  | unreadable fault => exact ⟨rfl, rfl, note_offers responder _ _ _ _, note_replies responder _ _ _ _⟩
  | malformed malformation =>
      exact ⟨rfl, rfl, note_offers responder _ _ _ _, note_replies responder _ _ _ _⟩
  | message message =>
      have shows := handle_alone responder other (handle_succeeds working responder message storage)
      rw [turn_of_ok shows.result]
      refine ⟨?_, handle_client idle working responder other storage, shows.offers, shows.replies⟩
      obtain ⟨id, operation⟩ := message
      cases operation <;> rfl

end

/-! ## A whole session -/

/-- A connection at a message boundary, with replies that can be written and data alone to come. -/
structure Ready (remote : Net.Endpoint) (stream : Bytes) (connection : Connection) : Prop where
  place : connection.remote = remote
  idle : connection.inFlight = .none
  working : connection.outlet = .working
  brings : connection.Brings stream

/-- A turn takes the first item of the stream, and the connection is ready for the rest. -/
theorem Ready.advance {remote : Net.Endpoint} {stream : Bytes} {connection : Connection}
    (ready : connection.Ready remote stream) (responder : Responder)
    (other : (Stream.first stream).1.asksUpgrade = false) (storage : τ) :
    ∃ served,
      connection.advance responder storage = (served, !(Stream.first stream).1.isLast) ∧
      served.connection.Ready remote (Stream.first stream).2 ∧
      Act.offers served.acts = (Stream.first stream).1.offers responder remote ∧
      Act.replies served.acts = (Stream.first stream).1.replies responder remote := by
  obtain ⟨place, idle, working, brings⟩ := ready
  obtain ⟨item, behind, buffer, inbox, same⟩ := next_brings brings
  have idle' : connection.next.2.inFlight = .none := by rw [same, ← idle]
  have working' : connection.next.2.outlet = .working := by rw [same, ← working]
  have place' : connection.next.2.remote = remote := by rw [same, ← place]
  obtain ⟨goesOn, kept, offers, replies⟩ := turn_account idle' working' responder other storage
  rw [place'] at offers replies
  refine ⟨(connection.next.2.turn responder (Stream.first stream).1 storage).1, ?_, ?_, offers, replies⟩
  · rw [Connection.advance, item, ← goesOn]
  · rw [kept]
    exact ⟨place', idle', working', behind⟩

/-- A session that takes a turn for each of some items, and makes the records and the replies of each. -/
structure Hears (responder : Responder) (remote : Net.Endpoint) (items : List Item)
    (connection : Connection) (storage : τ) (served : Served τ) : Prop where
  takes : Takes responder items.length connection storage served
  place : served.connection.remote = remote
  offers : Act.offers served.acts = items.flatMap (Item.offers responder remote)
  replies : Act.replies served.acts = items.flatMap (Item.replies responder remote)

section
variable {remote : Net.Endpoint} {stream : Bytes} {connection : Connection}
  (ready : connection.Ready remote stream) (responder : Responder)
  (other : (Stream.first stream).1.asksUpgrade = false) (storage : τ)

include ready other

theorem Ready.hears_last (last : (Stream.first stream).1.isLast = true) :
    ∃ served, Hears responder remote [(Stream.first stream).1] connection storage served := by
  obtain ⟨served, turn, behind, offers, replies⟩ := ready.advance responder other storage
  rw [last] at turn
  refine ⟨served, .last turn, behind.place, ?_, ?_⟩
  · rw [offers, List.flatMap_singleton]
  · rw [replies, List.flatMap_singleton]

/-- A session goes on behind an item that is not the last, and then hears the others. -/
theorem Ready.hears_more (notLast : (Stream.first stream).1.isLast = false) {items : List Item}
    (rest : ∀ {connection : Connection}, connection.Ready remote (Stream.first stream).2 →
      ∀ storage : τ, ∃ served, Hears responder remote items connection storage served) :
    ∃ served, Hears responder remote ((Stream.first stream).1 :: items) connection storage served := by
  obtain ⟨served, turn, behind, offers, replies⟩ := ready.advance responder other storage
  rw [notLast] at turn
  obtain ⟨later, hears⟩ := rest behind served.storage
  refine ⟨later.after served.acts, .more turn hears.takes, hears.place, ?_, ?_⟩
  · change Act.offers (served.acts ++ later.acts) = _
    rw [Act.offers_append, offers, hears.offers, List.flatMap_cons]
  · change Act.replies (served.acts ++ later.acts) = _
    rw [Act.replies_append, replies, hears.replies, List.flatMap_cons]

end

/-- A session hears the items of the stream that it is brought, to the first that is the last for it. -/
theorem Ready.hears {remote : Net.Endpoint} {stream : Bytes} {connection : Connection}
    (ready : connection.Ready remote stream) (responder : Responder)
    (other : ∀ item ∈ Stream.heard (Stream.items stream), item.asksUpgrade = false) (storage : τ) :
    ∃ served,
      Hears responder remote (Stream.heard (Stream.items stream)) connection storage served := by
  fun_induction Stream.items stream generalizing connection storage with
  | case1 stream consumed ih =>
      cases last : (Stream.first stream).1.isLast with
      | true =>
          rw [Stream.heard_of_last last] at other ⊢
          exact ready.hears_last responder (other _ (.head _)) storage last
      | false =>
          rw [Stream.heard_of_not_last last] at other ⊢
          refine ready.hears_more responder (other _ (.head _)) storage last fun behind storage => ?_
          exact ih behind (fun item heard => other item (.tail _ heard)) storage
  | case2 stream unconsumed =>
      have last := Item.isLast_of_unconsumed (Bool.eq_false_iff.mpr unconsumed)
      rw [Stream.heard_of_last last] at other ⊢
      exact ready.hears_last responder (other _ (.head _)) storage last

theorem fresh_ready (remote : Net.Endpoint) (upgrader : Tls.Upgrader) (tree : Os.Files)
    (chunks : List Bytes) :
    (fresh remote upgrader tree (chunks.map .data)).Ready remote chunks.flatten :=
  ⟨rfl, rfl, rfl, fresh_brings remote upgrader tree chunks⟩

/-- What a session shows: that the client has connected, what comes of the turns, and that the client has
disconnected. -/
theorem session_shows (responder : Responder) (connection : Connection) (storage : τ) :
    let greeted := (connection.greet responder storage).2
    let served := serve responder connection greeted
    Act.offers (connection.session responder storage).acts =
        [about responder connection.remote " connected"] ++ Act.offers served.acts ++
          [about responder served.connection.remote " disconnected"] ∧
      Act.replies (connection.session responder storage).acts = Act.replies served.acts := by
  intro greeted served
  have acts : (connection.session responder storage).acts =
      (connection.greet responder storage).1 ++ served.acts ++
        (served.connection.dismiss responder served.storage).1 := rfl
  constructor
  · have connected := note_offers responder "LDAP client " connection " connected" storage
    have disconnected := note_offers responder "LDAP client " served.connection " disconnected" served.storage
    rw [acts, Act.offers_append, Act.offers_append, greet, dismiss, connected, disconnected]
    rfl
  · have connected := note_replies responder "LDAP client " connection " connected" storage
    have disconnected := note_replies responder "LDAP client " served.connection " disconnected" served.storage
    rw [acts, Act.replies_append, Act.replies_append, greet, dismiss, connected, disconnected,
      List.nil_append, List.append_nil]

/-- A session of a client that sends data without a request to upgrade ends, in one turn for each item that
is heard, and it records: that the client has connected, then what each of these items gives, then that the
client has disconnected. The replies are those of these items. -/
theorem session_account (responder : Responder) (remote : Net.Endpoint) (upgrader : Tls.Upgrader)
    (tree : Os.Files) (chunks : List Bytes) (storage : τ)
    (other : ∀ item ∈ Stream.heard (Stream.items chunks.flatten), item.asksUpgrade = false) :
    let client := fresh remote upgrader tree (chunks.map .data)
    let heard := Stream.heard (Stream.items chunks.flatten)
    let greeted := (client.greet responder storage).2
    let served := client.session responder storage
    Takes responder heard.length client greeted (serve responder client greeted) ∧
      Act.offers served.acts =
        [about responder remote " connected"] ++ heard.flatMap (Item.offers responder remote) ++
          [about responder remote " disconnected"] ∧
      Act.replies served.acts = heard.flatMap (Item.replies responder remote) ∧
      served.storage = Storage.addAll (Act.offers served.acts) storage := by
  intro client heard greeted served
  obtain ⟨final, hears⟩ := (fresh_ready remote upgrader tree chunks).hears responder other greeted
  have same : serve responder client greeted = final := hears.takes.serve_eq
  obtain ⟨offers, replies⟩ := session_shows responder client storage
  refine ⟨?_, ?_, ?_, session_storage responder client storage⟩
  · rw [same]
    exact hears.takes
  · rw [offers, same, hears.offers, hears.place]
    rfl
  · rw [replies, same, hears.replies]

/-- A malformed message, a bind, and behind an unbind a message that is not heard, in three reads. -/
theorem session_account_of_unbind :
    let responder : Responder := ⟨"t", ⟨"token", "now"⟩⟩
    let remote : Net.Endpoint := ⟨.v4 127 0 0 1, 4000, 0⟩
    let upgrader : Tls.Upgrader := ⟨none, ⟨.other [] [], []⟩, [], .other [] []⟩
    let chunks : List Bytes := [[0x30, 5, 2], [1, 1, 0x5e, 0, 0x30, 12, 2, 1, 2, 0x60, 7, 2, 1, 3],
      [4, 0, 0x80, 0, 0x30, 5, 2, 1, 3, 0x42, 0, 0x30, 5, 2, 1, 4, 0x42, 0]]
    let heard : List Item :=
      [.malformed .operationKind, .message ⟨2, .bind "" (.simple "")⟩, .message ⟨3, .unbind⟩]
    let served := (fresh remote upgrader ⟨[], [], []⟩ (chunks.map .data)).session responder
      Storage.Memory.empty
    Stream.heard (Stream.items chunks.flatten) = heard ∧
      (∀ item ∈ heard, item.asksUpgrade = false) ∧
      Act.offers served.acts =
        [about responder remote " connected",
          about responder remote (" sent an invalid message: " ++
            (SessionFault.malformed Malformation.operationKind.message).message),
          ⟨.token, "token", Record.line ⟨"", "", Transcript.bind "" "", remote.text, "now"⟩⟩,
          about responder remote " disconnected"] ∧
      Act.replies served.acts = [.of 2 (.bind .success none)] := by
  intro responder remote upgrader chunks heard served
  have hears : Stream.heard (Stream.items chunks.flatten) = heard := by with_unfolding_all rfl
  have other : ∀ item ∈ heard, item.asksUpgrade = false := by decide
  obtain ⟨_, offers, replies, _⟩ := session_account responder remote upgrader ⟨[], [], []⟩ chunks
    Storage.Memory.empty (by rw [hears]; exact other)
  rw [hears] at offers replies
  exact ⟨hears, other, offers, replies⟩

end Connection

end LdapDecoy.Server
