import LdapDecoy.Proofs.Server.Account

/-!
# The transport of a session

An upgrade takes the transport out of the connection, and every way out of it puts one back: the encrypted one
when the handshake has succeeded, and otherwise the one that was there. So a connection has a transport at every
message boundary, goes from plain to TLS with a successful handshake alone, and never back. What is done about
any other request does not depend on the transport.
-/
namespace LdapDecoy.Server.Connection
open Ldap Responder

/-! ## What an upgrade comes to -/

/-- Whether an upgrade of a connection in plain comes to a version: the server has a pair to show, the TLS library
lays a layer, and the client's handshake succeeds. -/
structure Handshakes (connection : Connection) (version : Tls.Version) : Prop where
  laid : connection.lay.1 = .ok ()
  shaken : ∃ pair events, connection.upgrader.acceptor connection.tree = (.ok pair, events) ∧
    (connection.shake pair []).1 = .ok version

/-- How a handshake ends depends on the stream alone. -/
theorem shake_alike (pair : Tls.CertifiedKey) {connection other : Connection}
    (same : connection.withStream other = connection) :
    (connection.shake pair []).1 = (other.shake pair []).1 := by
  have moved := congrArg Prod.fst (shake_withStream pair [] connection other)
  rw [same] at moved
  exact moved

theorem shake_taken (pair : Tls.CertifiedKey) (connection : Connection) :
    (connection.take.discard.1.lay.2.shake pair []).1 =
      (connection.shake pair []).1 := by
  obtain ⟨laying, laid⟩ := lay_stream connection.take.discard.1
  rw [laid]
  exact shake_alike pair rfl

/-- Whether a layer is laid depends on what the TLS library will answer alone. -/
theorem lay_alike {connection other : Connection} (same : connection.laying = other.laying) :
    connection.lay.1 = other.lay.1 := by
  unfold lay
  rw [same]
  cases other.laying <;> rfl

theorem lay_taken (connection : Connection) : connection.take.discard.1.lay.1 = connection.lay.1 :=
  lay_alike rfl

theorem handshakes_begin (connection : Connection) (id : MessageId) (version : Tls.Version) :
    (connection.begin id).Handshakes version ↔ connection.Handshakes version := by
  have shake (pair : Tls.CertifiedKey) :
      ((connection.begin id).shake pair []).1 = (connection.shake pair []).1 :=
    shake_alike pair rfl
  have lay : (connection.begin id).lay.1 = connection.lay.1 := lay_alike rfl
  constructor
  · rintro ⟨laid, pair, events, accepted, shaken⟩
    exact ⟨lay.symm.trans laid, pair, events, accepted, (shake pair).symm.trans shaken⟩
  · rintro ⟨laid, pair, events, accepted, shaken⟩
    exact ⟨lay.trans laid, pair, events, accepted, (shake pair).trans shaken⟩

section
variable (connection : Connection) (plain : connection.transport = some .plain)
include plain

theorem startTls_of_handshakes {version : Tls.Version} (handshakes : connection.Handshakes version) :
    connection.startTls.1 = .ok () ∧ connection.startTls.2.2.transport = some (.tls version) := by
  obtain ⟨laid, pair, events, accepted, succeeds⟩ := handshakes
  rw [← lay_taken] at laid
  rw [← shake_taken] at succeeds
  rcases shaken : connection.take.discard.1.lay.2.shake pair [] with ⟨outcome, behind⟩
  rw [shaken] at succeeds
  subst succeeds
  rw [startTls_upgraded connection plain (upgrade_shaken connection.take.discard.1 accepted laid shaken)]
  exact ⟨rfl, rfl⟩

theorem startTls_of_no_handshake (none : ∀ version, ¬ connection.Handshakes version) :
    (∃ fault, connection.startTls.1 = .error fault) ∧
      connection.startTls.2.2.transport = some .plain := by
  rcases answer : connection.upgrader.acceptor connection.tree with ⟨fault | pair, events⟩
  · rw [startTls_failed connection plain (upgrade_unaccepted connection.take.discard.1 answer)]
    exact ⟨⟨fault, rfl⟩, rfl⟩
  rcases laid : connection.take.discard.1.lay.1 with fault | _
  · rw [startTls_failed connection plain (upgrade_unlaid connection.take.discard.1 answer laid)]
    exact ⟨⟨fault, rfl⟩, rfl⟩
  rcases shaken : connection.take.discard.1.lay.2.shake pair [] with ⟨flaw | version, behind⟩
  · rw [startTls_failed connection plain
      (upgrade_unshaken connection.take.discard.1 answer laid shaken)]
    exact ⟨⟨.handshake flaw, rfl⟩, rfl⟩
  · have succeeds := shake_taken pair connection
    rw [shaken] at succeeds
    rw [lay_taken] at laid
    exact absurd ⟨laid, pair, events, answer, succeeds.symm⟩ (none version)

end

/-- Whatever an upgrade comes to, the connection has a transport behind it if it had one before, and after a
failed one it is the same. -/
theorem startTls_transport (connection : Connection) :
    connection.startTls.2.2.transport.isSome = connection.transport.isSome ∧
      ∀ fault, connection.startTls.1 = .error fault →
        connection.startTls.2.2.transport = connection.transport := by
  rcases transport : connection.transport with _ | _ | version
  · rw [startTls_lost connection transport]
    exact ⟨congrArg Option.isSome transport, fun _ _ => transport⟩
  · by_cases handshakes : ∃ version, connection.Handshakes version
    · obtain ⟨version, handshakes⟩ := handshakes
      obtain ⟨succeeds, behind⟩ := startTls_of_handshakes connection transport handshakes
      constructor
      · rw [behind]
        rfl
      intro fault failed
      rw [succeeds] at failed
      cases failed
    · obtain ⟨_, behind⟩ := startTls_of_no_handshake connection transport (not_exists.mp handshakes)
      exact ⟨congrArg Option.isSome behind, fun _ _ => behind⟩
  · rw [startTls_encrypted connection transport]
    exact ⟨congrArg Option.isSome transport, fun _ _ => transport⟩

/-! ## Turns -/

/-- Reading the next item leaves everything but what is read and the stream as it was. -/
theorem next_stream (connection : Connection) :
    ∃ buffer stream, connection.next.2 = { connection.withStream stream with buffer } := by
  fun_induction next connection with
  | case1 connection message rest framed => exact ⟨rest, connection, rfl⟩
  | case2 connection malformation rest framed => exact ⟨rest, connection, rfl⟩
  | case3 connection framed => exact ⟨connection.buffer, connection, rfl⟩
  | case4 connection framed inbox => exact ⟨connection.buffer, connection, rfl⟩
  | case5 connection framed arrival rest inbox ih =>
      obtain ⟨buffer, stream, same⟩ := ih
      refine ⟨buffer, stream, same.trans ?_⟩
      cases arrival <;> rfl

/-- A connection that can be read from and written to. -/
structure IsLive (connection : Connection) : Prop where
  present : connection.transport.isSome = true
  working : connection.outlet = .working

theorem IsLive.next {connection : Connection} (live : connection.IsLive) : connection.next.2.IsLive := by
  obtain ⟨buffer, stream, same⟩ := next_stream connection
  rw [same]
  exact ⟨live.present, live.working⟩

theorem next_transport (connection : Connection) : connection.next.2.transport = connection.transport := by
  obtain ⟨buffer, stream, same⟩ := next_stream connection
  rw [same]
  rfl

theorem next_inFlight (connection : Connection) : connection.next.2.inFlight = connection.inFlight := by
  obtain ⟨buffer, stream, same⟩ := next_stream connection
  rw [same]
  rfl

theorem next_outlet (connection : Connection) : connection.next.2.outlet = connection.outlet := by
  obtain ⟨buffer, stream, same⟩ := next_stream connection
  rw [same]
  rfl

theorem next_remote (connection : Connection) : connection.next.2.remote = connection.remote := by
  obtain ⟨buffer, stream, same⟩ := next_stream connection
  rw [same]
  rfl

variable {τ : Type} [Storage τ]

section
variable {connection : Connection} (live : connection.IsLive) (responder : Responder)
include live

/-- No message takes the transport away, or the way to the client. -/
theorem IsLive.handle (message : Message) (storage : τ) :
    (connection.handle responder message storage).client.IsLive := by
  constructor
  · have kept : (responder.handle message (connection.begin message.id) storage).client.transport.isSome =
        connection.transport.isSome :=
      Dialogue.run_keeps responder.recorder (connection.begin message.id) storage
        (fun c => c.transport.isSome) (fun _ _ => rfl) (.inr fun _ _ => rfl)
        (.inr fun c => (startTls_transport c).1)
    exact kept.trans live.present
  · have kept := handle_fault? responder message (connection.begin message.id) storage
    exact Outlet.fault?_eq_none.mp (kept.trans (Outlet.fault?_eq_none.mpr live.working))

/-- Behind a request for an upgrade the connection is as the upgrade has left it. -/
theorem IsLive.handle_upgrade (id : MessageId) (value : Option Bytes) (storage : τ) :
    (connection.handle responder ⟨id, .extended startTlsOid value⟩ storage).client.transport =
      (connection.begin id).startTls.2.2.transport := by
  have outlet : HasOutlet.through .working (connection.begin id) = connection.begin id := by
    have same := HasOutlet.through_outlet (connection.begin id)
    rw [show HasOutlet.outlet (connection.begin id) = .working from live.working] at same
    exact same
  have client := Dialogue.client_upgrade (connection.begin id) storage responder.recorder id
  rw [outlet] at client
  change (responder.handle _ (connection.begin id) storage).client.transport = _
  rw [Responder.handle, Dialogue.plan_upgrade, Dialogue.run_log, Outcome.after_client, client]
  rfl

end

theorem turn_client (responder : Responder) (message : Message) (connection : Connection) (storage : τ) :
    (connection.turn responder (.message message) storage).1.connection =
      (connection.handle responder message storage).client := by
  simp only [turn]
  split <;> rfl

/-- What a message leaves as it is in a connection, every turn does. -/
theorem turn_keeps (invariant : Connection → Prop) {connection : Connection} (holds : invariant connection)
    {responder : Responder} {storage : τ}
    (handles : ∀ message, invariant (connection.handle responder message storage).client) (item : Item) :
    invariant (connection.turn responder item storage).1.connection := by
  cases item with
  | message message =>
      rw [turn_client]
      exact handles message
  | malformed _ | unreadable _ | ended => exact holds

theorem IsLive.turn {connection : Connection} (live : connection.IsLive) (responder : Responder)
    (item : Item) (storage : τ) : (connection.turn responder item storage).1.connection.IsLive :=
  turn_keeps IsLive live (fun message => live.handle responder message storage) item

theorem IsLive.advance {connection : Connection} (live : connection.IsLive) (responder : Responder)
    (storage : τ) : (connection.advance responder storage).1.connection.IsLive :=
  live.next.turn responder connection.next.1 storage

/-- What a request for an upgrade comes to on a connection: on one in plain it turns on the handshake, and on an
encrypted one it is refused. That it can begin is always replied first, and an error under the same id and name
follows where it has failed or is refused. -/
structure AnswersUpgrade (id : MessageId) (connection : Connection) (served : Served τ) : Prop where
  secured : ∀ version, connection.transport = some .plain → connection.Handshakes version →
    served.connection.transport = some (.tls version) ∧
      Act.replies served.acts = [.of id (.extended .success (some startTlsOid) none)]
  failed : connection.transport = some .plain → (∀ version, ¬ connection.Handshakes version) →
    served.connection.transport = some .plain ∧
      ∃ fault : TlsFault, Act.replies served.acts =
        [.of id (.extended .success (some startTlsOid) none),
          .of id (.extended (.of .operationsError ("StartTLS Handshake error : \"" ++ fault.message ++ "\""))
            (some startTlsOid) none)]
  repeated : ∀ version, connection.transport = some (.tls version) →
    served.connection.transport = some (.tls version) ∧
      Act.replies served.acts =
        [.of id (.extended .success (some startTlsOid) none),
          .of id (.extended
            (.of .operationsError "StartTLS Handshake error : \"connection is already using tls\"")
            (some startTlsOid) none)]

/-- A request for an upgrade is answered as its outcome has it, and the session goes on. -/
theorem IsLive.answersUpgrade {connection : Connection} (live : connection.IsLive) (responder : Responder)
    (id : MessageId) (value : Option Bytes) (storage : τ) :
    let turn := connection.turn responder (.message ⟨id, .extended startTlsOid value⟩) storage
    AnswersUpgrade id connection turn.1 ∧ turn.2 = true := by
  intro turn
  have shows := shows_handle responder ⟨id, .extended startTlsOid value⟩ (connection.begin id) storage (by
    rw [show HasOutlet.outlet (connection.begin id) = .working from live.working]
    trivial)
  have turned : turn = _ := turn_of_ok shows.result
  have transport := live.handle_upgrade responder id value storage
  have replies : Act.replies turn.1.acts = Policy.upgradeReplies (connection.begin id).startTls.1 id := by
    rw [turned]
    exact shows.replies.trans (Policy.replies_upgrade _ _ id value)
  rw [← turn_client] at transport
  refine ⟨⟨?_, ?_, ?_⟩, ?_⟩
  · intro version plain handshakes
    obtain ⟨succeeds, behind⟩ := startTls_of_handshakes (connection.begin id) plain
      ((handshakes_begin connection id version).mpr handshakes)
    rw [succeeds] at replies
    exact ⟨transport.trans behind, replies⟩
  · intro plain none
    obtain ⟨⟨fault, fails⟩, behind⟩ := startTls_of_no_handshake (connection.begin id) plain
      (fun version handshakes => none version ((handshakes_begin connection id version).mp handshakes))
    rw [fails] at replies
    exact ⟨transport.trans behind, fault, replies⟩
  · intro version encrypted
    have refused := startTls_encrypted (connection.begin id) encrypted
    rw [refused] at replies transport
    exact ⟨transport.trans encrypted, replies⟩
  · rw [turned]
    rfl

/-! ## Other requests -/

/-- A change that does not show while a message is handled does not show in the whole turn. -/
theorem turn_of_unnoticed {change : Connection → Connection} (unnoticed : Unnoticed change)
    {responder : Responder} {message : Message} {connection : Connection} {storage : τ}
    (same : (change connection).handle responder message storage =
      (connection.handle responder message storage).withClient change) :
    (change connection).turn responder (.message message) storage =
      let turn := connection.turn responder (.message message) storage
      ({ turn.1 with connection := change turn.1.connection }, turn.2) := by
  rcases handled : connection.handle responder message storage with ⟨fault | flow, behind, stored, acts⟩
  · have remote : (change behind).remote = behind.remote := unnoticed.remote behind
    rw [handled] at same
    simp only [turn, same, handled, Outcome.withClient, note, remote]
  · rw [handled] at same
    simp only [turn, same, handled, Outcome.withClient]

/-- A change that no client notices, and that has nothing to do with what is in flight, does not show in a turn
without an upgrade. -/
theorem turn_unnoticed {change : Connection → Connection} (unnoticed : Unnoticed change)
    (begins : ∀ id connection, (change connection).begin id = change (connection.begin id))
    (finishes : ∀ id connection, (change connection).finish id = change (connection.finish id))
    (responder : Responder) {item : Item} (other : item.asksUpgrade = false) (connection : Connection)
    (storage : τ) :
    (change connection).turn responder item storage =
      let turn := connection.turn responder item storage
      ({ turn.1 with connection := change turn.1.connection }, turn.2) := by
  have remote : (change connection).remote = connection.remote := unnoticed.remote connection
  cases item with
  | message message =>
      have never := Dialogue.plan_neverUpgrades other responder.domain
      have run := Dialogue.run_unnoticed unnoticed responder.recorder never (connection.begin message.id)
        storage
      refine turn_of_unnoticed unnoticed ?_
      rw [Connection.handle, Responder.handle, begins, run]
      exact congrArg (fun client => Outcome.mk _ client _ _) (finishes message.id _)
  | malformed _ | unreadable _ => simp only [turn, note, remote]
  | ended => rfl

/-- The connection over another transport. -/
def withTransport (transport : Option Transport) (connection : Connection) : Connection :=
  { connection with transport }

theorem withTransport_unnoticed (transport : Option Transport) :
    Unnoticed (withTransport transport) :=
  ⟨fun _ => rfl, fun _ _ => rfl, fun _ _ => rfl, fun _ _ => rfl⟩

/-- What is done about anything but a request for an upgrade does not depend on the transport. -/
theorem turn_withTransport (responder : Responder) {item : Item} (other : item.asksUpgrade = false)
    (transport : Option Transport) (connection : Connection) (storage : τ) :
    (connection.withTransport transport).turn responder item storage =
      let turn := connection.turn responder item storage
      ({ turn.1 with connection := turn.1.connection.withTransport transport }, turn.2) :=
  turn_unnoticed (withTransport_unnoticed transport) (fun _ _ => rfl) (fun _ _ => rfl) responder other
    connection storage

theorem turn_transport (responder : Responder) {item : Item} (other : item.asksUpgrade = false)
    (connection : Connection) (storage : τ) :
    (connection.turn responder item storage).1.connection.transport = connection.transport := by
  have same := turn_withTransport responder other connection.transport connection storage
  exact congrArg (fun turn => turn.1.connection.transport) same

theorem next_withTransport (transport : Option Transport) (connection : Connection) :
    (connection.withTransport transport).next =
      (connection.next.1, connection.next.2.withTransport transport) := by
  fun_induction next connection with
  | case1 connection message rest framed =>
      rw [next, show frame (connection.withTransport transport).buffer = _ from framed]
      rfl
  | case2 connection malformation rest framed =>
      rw [next, show frame (connection.withTransport transport).buffer = _ from framed]
      rfl
  | case3 connection framed =>
      rw [next, show frame (connection.withTransport transport).buffer = _ from framed]
  | case4 connection framed inbox =>
      have moved := @next_of_nil (connection.withTransport transport) framed inbox
      rw [Stream.first, show frame (connection.withTransport transport).buffer = _ from framed] at moved
      exact moved
  | case5 connection framed arrival rest inbox ih =>
      have moved := @next_of_cons (connection.withTransport transport) framed arrival rest inbox
      have read : (connection.withTransport transport).read arrival rest =
          (connection.read arrival rest).withTransport transport := by cases arrival <;> rfl
      rw [moved, read]
      exact ih

/-- An item that asks for an upgrade is a request of the name for it. -/
theorem Item.eq_of_asksUpgrade {item : Item} (asks : item.asksUpgrade = true) :
    ∃ id value, item = .message ⟨id, .extended startTlsOid value⟩ := by
  rcases item with ⟨id, operation⟩ | _ | _ | _
  · cases operation with
    | extended name value =>
        have isName : name = startTlsOid := of_decide_eq_true asks
        exact ⟨id, value, by rw [isName]⟩
    | bind _ _ | unbind | search _ | modify _ _ | add _ _ | delete _ | modifyDn _ _ _ | compare _ _ _
    | abandon _ | unexpected _ => cases asks
  · cases asks
  · cases asks
  · cases asks

/-! ## The transport at a message boundary -/

/-- What the turn at a message boundary makes of the transport. -/
structure KeepsTransport (responder : Responder) (connection : Connection) (storage : τ) : Prop where
  present : connection.transport.isSome = true
  behind : (connection.advance responder storage).1.connection.transport.isSome = true
  /-- A connection in plain is encrypted by a request for it whose handshake succeeds, and by nothing else. -/
  secured : connection.transport = some .plain → ∀ version,
    (connection.advance responder storage).1.connection.transport = some (.tls version) ↔
      connection.next.1.asksUpgrade = true ∧ connection.next.2.Handshakes version
  /-- An encrypted connection stays so. -/
  encrypted : ∀ version, connection.transport = some (.tls version) →
    (connection.advance responder storage).1.connection.transport = some (.tls version)
  upgrade : ∀ id value, connection.next.1 = .message ⟨id, .extended startTlsOid value⟩ →
    AnswersUpgrade id connection.next.2 (connection.advance responder storage).1 ∧
      (connection.advance responder storage).2 = true
  /-- Over every other transport, what is replied, recorded and logged about any other item is the same. -/
  other : connection.next.1.asksUpgrade = false → ∀ transport,
    (connection.withTransport transport).advance responder storage =
      let turn := connection.advance responder storage
      ({ turn.1 with connection := turn.1.connection.withTransport transport }, turn.2)

theorem advance_withTransport {connection : Connection} (responder : Responder)
    (other : connection.next.1.asksUpgrade = false) (transport : Option Transport) (storage : τ) :
    (connection.withTransport transport).advance responder storage =
      let turn := connection.advance responder storage
      ({ turn.1 with connection := turn.1.connection.withTransport transport }, turn.2) := by
  rw [advance, next_withTransport]
  exact turn_withTransport responder other transport connection.next.2 storage

theorem advance_transport {connection : Connection} (responder : Responder)
    (other : connection.next.1.asksUpgrade = false) (storage : τ) :
    (connection.advance responder storage).1.connection.transport = connection.transport :=
  (turn_transport responder other connection.next.2 storage).trans (next_transport connection)

section
variable {connection : Connection} (live : connection.IsLive) (responder : Responder) (storage : τ)
include live

theorem IsLive.advance_upgrade {id : MessageId} {value : Option Bytes}
    (asked : connection.next.1 = .message ⟨id, .extended startTlsOid value⟩) :
    AnswersUpgrade id connection.next.2 (connection.advance responder storage).1 ∧
      (connection.advance responder storage).2 = true := by
  rw [Connection.advance, asked]
  exact live.next.answersUpgrade responder id value storage

theorem IsLive.advance_encrypted {version : Tls.Version}
    (encrypted : connection.transport = some (.tls version)) :
    (connection.advance responder storage).1.connection.transport = some (.tls version) := by
  cases asks : connection.next.1.asksUpgrade with
  | false => exact (advance_transport responder asks storage).trans encrypted
  | true =>
      obtain ⟨id, value, asked⟩ := Item.eq_of_asksUpgrade asks
      obtain ⟨answers, _⟩ := live.advance_upgrade responder storage asked
      exact (answers.repeated version ((next_transport connection).trans encrypted)).1

theorem IsLive.advance_plain (plain : connection.transport = some .plain) (version : Tls.Version) :
    (connection.advance responder storage).1.connection.transport = some (.tls version) ↔
      connection.next.1.asksUpgrade = true ∧ connection.next.2.Handshakes version := by
  have plain' : connection.next.2.transport = some .plain := (next_transport connection).trans plain
  cases asks : connection.next.1.asksUpgrade with
  | false =>
      rw [advance_transport responder asks storage, plain]
      constructor
      · intro encrypted
        cases encrypted
      · rintro ⟨asked, _⟩
        cases asked
  | true =>
      obtain ⟨id, value, asked⟩ := Item.eq_of_asksUpgrade asks
      obtain ⟨answers, _⟩ := live.advance_upgrade responder storage asked
      constructor
      · intro encrypted
        refine ⟨rfl, ?_⟩
        by_cases handshakes : ∃ version, connection.next.2.Handshakes version
        · obtain ⟨agreed, handshakes⟩ := handshakes
          have secured := (answers.secured agreed plain' handshakes).1
          rw [encrypted] at secured
          cases secured
          exact handshakes
        · have failed := (answers.failed plain' (not_exists.mp handshakes)).1
          rw [encrypted] at failed
          cases failed
      · rintro ⟨_, handshakes⟩
        exact (answers.secured version plain' handshakes).1

theorem IsLive.keepsTransport : KeepsTransport responder connection storage where
  present := live.present
  behind := (live.advance responder storage).present
  secured := live.advance_plain responder storage
  encrypted _ := live.advance_encrypted responder storage
  upgrade _ _ := live.advance_upgrade responder storage
  other asks transport := advance_withTransport responder asks transport storage

/-- Every later boundary is live as well. -/
theorem IsLive.reaches {boundary : Connection} {stored : τ}
    (reaches : Reaches responder connection storage boundary stored) : boundary.IsLive :=
  reaches.keeps (fun _ storage live => live.advance responder storage) live

theorem IsLive.reaches_encrypted {version : Tls.Version}
    (encrypted : connection.transport = some (.tls version)) {boundary : Connection} {stored : τ}
    (reaches : Reaches responder connection storage boundary stored) :
    boundary.transport = some (.tls version) := by
  let invariant (connection : Connection) : Prop :=
    connection.IsLive ∧ connection.transport = some (.tls version)
  have turn (connection : Connection) (storage : τ) :
      invariant connection → invariant (connection.advance responder storage).1.connection := by
    rintro ⟨live, encrypted⟩
    exact ⟨live.advance responder storage, live.advance_encrypted responder storage encrypted⟩
  have start : invariant connection := ⟨live, encrypted⟩
  exact (reaches.keeps turn start).2

end

/-- In a session whose replies can be written, whatever pair there is to show, whatever the TLS library answers and
however the handshakes end, the connection has a transport at every message boundary. It goes from plain to TLS
with a request for it whose handshake succeeds alone, and never back; a request that is refused or fails is
answered twice and leaves the transport as it was; and nothing else depends on the transport. -/
theorem transport_of_session (responder : Responder) (remote : Net.Endpoint) (upgrader : Tls.Upgrader)
    (laying : List (Except TlsFault Unit)) (tree : Os.Files) (inbox : List Arrival) (storage : τ)
    {boundary : Connection} {stored : τ}
    (reaches : Reaches responder { fresh remote upgrader tree inbox with laying } storage boundary stored) :
    KeepsTransport responder boundary stored ∧
      ∀ version later last, boundary.transport = some (.tls version) →
        Reaches responder boundary stored later last → later.transport = some (.tls version) := by
  have start : IsLive { fresh remote upgrader tree inbox with laying } := ⟨rfl, rfl⟩
  have live : boundary.IsLive := start.reaches responder storage reaches
  refine ⟨live.keepsTransport responder stored, ?_⟩
  intro version later last encrypted onward
  exact live.reaches_encrypted responder stored encrypted onward

/-- A client that asks for an upgrade twice: the first request encrypts the connection, and the second is refused
over the encrypted one. -/
theorem transport_of_upgraded_session :
    let responder : Responder := ⟨"t", ⟨"token", "now"⟩⟩
    let remote : Net.Endpoint := ⟨.v4 127 0 0 1, 4000, 0⟩
    let upgrader : Tls.Upgrader := ⟨none, ⟨⟨.rsa 1 1, []⟩, [], .rsa 1 1⟩⟩
    let request : Bytes := [0x30, 0x1d, 2, 1, 1, 0x77, 0x18, 0x80, 0x16] ++ Text.bytes "1.3.6.1.4.1.1466.20037"
    let client := fresh remote upgrader ⟨[], [], []⟩ [.data request, .hello ⟨none, none⟩, .data request]
    let first := client.advance responder Storage.Memory.empty
    let upgraded := first.1.connection
    Reaches responder client Storage.Memory.empty upgraded first.1.storage ∧
      client.transport = some .plain ∧
      upgraded.transport = some (.tls .tls12) ∧
      KeepsTransport responder upgraded first.1.storage ∧
      Act.replies (upgraded.advance responder first.1.storage).1.acts =
        [.of 1 (.extended .success (some "1.3.6.1.4.1.1466.20037") none),
          .of 1 (.extended
            (.of .operationsError "StartTLS Handshake error : \"connection is already using tls\"")
            (some "1.3.6.1.4.1.1466.20037") none)] := by
  intro responder remote upgrader request client first upgraded
  have asked : client.next.1 = .message ⟨1, .extended startTlsOid none⟩ := by with_unfolding_all rfl
  have secured : upgraded.transport = some (.tls .tls12) := by with_unfolding_all rfl
  have start : Reaches responder client Storage.Memory.empty client Storage.Memory.empty := .here
  obtain ⟨keeps, _⟩ := transport_of_session responder remote upgrader [] ⟨[], [], []⟩
    [.data request, .hello ⟨none, none⟩, .data request] Storage.Memory.empty start
  obtain ⟨_, goesOn⟩ := keeps.upgrade 1 none asked
  have reaches : Reaches responder client Storage.Memory.empty upgraded first.1.storage :=
    start.onward (Prod.ext rfl goesOn)
  obtain ⟨behind, _⟩ := transport_of_session responder remote upgrader [] ⟨[], [], []⟩
    [.data request, .hello ⟨none, none⟩, .data request] Storage.Memory.empty reaches
  have again : upgraded.next.1 = .message ⟨1, .extended startTlsOid none⟩ := by with_unfolding_all rfl
  obtain ⟨answers, _⟩ := behind.upgrade 1 none again
  have refused := answers.repeated .tls12 ((next_transport upgraded).trans secured)
  exact ⟨reaches, rfl, secured, behind, refused.2⟩

end LdapDecoy.Server.Connection
