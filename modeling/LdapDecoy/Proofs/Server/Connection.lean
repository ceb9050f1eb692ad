import LdapDecoy.Proofs.InFlight
import LdapDecoy.Proofs.Responder.Atomic
import LdapDecoy.Server.Connection

/-!
# Connections as clients

Nothing that a connection does depends on its outlet, and a dialogue leaves everything in it as it was that
writing, abandoning and upgrading leave: which requests are in flight, and, where nothing is upgraded, what
there is to read.
-/
namespace LdapDecoy.Server.Connection
open Ldap Responder

/-- The connection with another outlet. -/
def withOutlet (outlet : Outlet) (connection : Connection) : Connection := { connection with outlet }

/-- The connection with the stream of another one: what comes, the handshakes so far and the files. -/
def withStream (connection stream : Connection) : Connection :=
  { connection with inbox := stream.inbox, handshakes := stream.handshakes, tree := stream.tree }

/-! ## Waiting for a hello -/

section
variable (pair : Tls.CertifiedKey) (taken : Bytes) (connection : Connection) {rest : List Arrival}

theorem shake_nil (inbox : connection.inbox = []) :
    connection.shake pair taken = (.error .noHello, connection) := by
  rw [shake]
  split <;> rename_i come <;> rw [inbox] at come <;> cases come

theorem shake_file {path : String} {content : Bytes}
    (inbox : connection.inbox = .file path content :: rest) :
    connection.shake pair taken = (connection.read (.file path content) rest).shake pair taken := by
  rw [shake]
  split <;> rename_i come <;> rw [inbox] at come <;> cases come
  rfl

theorem shake_hello {hello : Tls.Hello} {octets : Bytes} (inbox : connection.inbox = .hello hello octets :: rest) :
    connection.shake pair taken =
      if taken.isEmpty then
        match pair.agree hello with
        | some version =>
          (.ok version, { connection with
            inbox := rest, handshakes := connection.handshakes ++ [.accepted version pair.leaf] })
        | none => (.error .noSharedVersion, { connection.refuse with inbox := rest })
      else shake pair taken { connection.refuse with inbox := .data octets :: rest } := by
  rw [shake]
  split <;> rename_i come <;> rw [inbox] at come <;> cases come
  rfl

theorem shake_data {octets : Bytes} (inbox : connection.inbox = .data octets :: rest) :
    connection.shake pair taken =
      let missing := Tls.recordSize (taken ++ octets) - taken.length
      if octets.length < missing then shake pair (taken ++ octets) { connection with inbox := rest }
      else (.error .noHello, { connection with inbox := .data (octets.drop missing) :: rest }) := by
  rw [shake]
  split <;> rename_i come <;> rw [inbox] at come <;> cases come
  rfl

end

/-- A handshake has to do with the stream alone. -/
theorem shake_withStream (pair : Tls.CertifiedKey) (taken : Bytes) (connection stream : Connection) :
    (connection.withStream stream).shake pair taken =
      ((stream.shake pair taken).1, connection.withStream (stream.shake pair taken).2) := by
  fun_induction shake pair taken stream with
  | case1 taken stream inbox => exact shake_nil pair taken (connection.withStream stream) inbox
  | case2 taken stream path content rest inbox ih =>
      rw [shake_file pair taken (connection.withStream stream) inbox]
      exact ih
  | case3 taken stream hello octets rest inbox begins version agreed =>
      rw [shake_hello pair taken (connection.withStream stream) inbox, if_pos begins, agreed]
      rfl
  | case4 taken stream hello octets rest inbox begins disagreed =>
      rw [shake_hello pair taken (connection.withStream stream) inbox, if_pos begins, disagreed]
      rfl
  | case5 taken stream hello octets rest inbox begun ih =>
      rw [shake_hello pair taken (connection.withStream stream) inbox, if_neg begun]
      exact ih
  | case6 taken stream octets rest inbox missing short ih =>
      rw [shake_data pair taken (connection.withStream stream) inbox]
      exact (if_pos short).trans ih
  | case7 taken stream octets rest inbox missing long =>
      rw [shake_data pair taken (connection.withStream stream) inbox]
      exact if_neg long

/-- A handshake leaves everything but the stream as it was. -/
theorem shake_stream (pair : Tls.CertifiedKey) (taken : Bytes) (connection : Connection) :
    (connection.shake pair taken).2 = connection.withStream (connection.shake pair taken).2 :=
  congrArg Prod.snd (shake_withStream pair taken connection connection)

theorem shake_withOutlet (pair : Tls.CertifiedKey) (taken : Bytes) (outlet : Outlet)
    (connection : Connection) :
    (connection.withOutlet outlet).shake pair taken =
      ((connection.shake pair taken).1, (connection.shake pair taken).2.withOutlet outlet) := by
  have moved := shake_withStream pair taken (connection.withOutlet outlet) connection
  have same := congrArg (withOutlet outlet) (shake_stream pair taken connection)
  rw [same]
  exact moved

/-! ## Upgrades -/

theorem lay_withOutlet (outlet : Outlet) (connection : Connection) :
    (connection.withOutlet outlet).lay = (connection.lay.1, connection.lay.2.withOutlet outlet) := by
  obtain ⟨remote, inFlight, _, transport, buffer, inbox, handshakes, upgrader, laying, tree⟩ := connection
  cases laying <;> rfl

/-- An upgrade does the same through every outlet. -/
theorem startTls_withOutlet (outlet : Outlet) (connection : Connection) :
    (connection.withOutlet outlet).startTls =
      (connection.startTls.1, connection.startTls.2.1, connection.startTls.2.2.withOutlet outlet) := by
  let other := connection.withOutlet outlet
  have lay : other.take.discard.1.lay = _ := lay_withOutlet outlet connection.take.discard.1
  rcases transport : connection.transport with _ | _ | version
  · rw [startTls_lost other transport, startTls_lost connection transport]
  · rcases answer : connection.upgrader.acceptor connection.tree with ⟨fault | pair, events⟩
    · rw [startTls_failed other transport (upgrade_unaccepted other.take.discard.1 answer),
        startTls_failed connection transport (upgrade_unaccepted connection.take.discard.1 answer)]
      rfl
    rcases laid : connection.take.discard.1.lay.1 with fault | _
    · have laid' : other.take.discard.1.lay.1 = _ := (congrArg Prod.fst lay).trans laid
      rw [startTls_failed other transport (upgrade_unlaid other.take.discard.1 answer laid'),
        startTls_failed connection transport (upgrade_unlaid connection.take.discard.1 answer laid), lay]
      rfl
    have laid' : other.take.discard.1.lay.1 = _ := (congrArg Prod.fst lay).trans laid
    have behind : other.take.discard.1.lay.2 = connection.take.discard.1.lay.2.withOutlet outlet :=
      congrArg Prod.snd lay
    have moved := shake_withOutlet pair [] outlet connection.take.discard.1.lay.2
    rw [← behind] at moved
    rcases shaken : connection.take.discard.1.lay.2.shake pair [] with ⟨flaw | version, behind⟩
    · rw [shaken] at moved
      rw [startTls_failed other transport (upgrade_unshaken other.take.discard.1 answer laid' moved),
        startTls_failed connection transport
          (upgrade_unshaken connection.take.discard.1 answer laid shaken)]
      rfl
    · rw [shaken] at moved
      rw [startTls_upgraded other transport (upgrade_shaken other.take.discard.1 answer laid' moved),
        startTls_upgraded connection transport
          (upgrade_shaken connection.take.discard.1 answer laid shaken)]
      rfl
  · rw [startTls_encrypted other transport, startTls_encrypted connection transport]

/-- An upgrade leaves everything but the transport, what has been read, what the TLS library will answer and the
stream as it was. -/
theorem startTls_stream (connection : Connection) :
    ∃ transport buffer laying stream,
      connection.startTls.2.2 = { connection.withStream stream with transport, buffer, laying } := by
  rcases transport : connection.transport with _ | _ | version
  · rw [startTls_lost connection transport]
    exact ⟨connection.transport, connection.buffer, connection.laying, connection, rfl⟩
  · obtain ⟨laying, laid⟩ := lay_stream connection.take.discard.1
    rcases upgrade_cases connection.take.discard.1 with
      ⟨fault, events, failed⟩ | ⟨fault, events, failed⟩ | ⟨pair, flaw, events, behind, shaken, failed⟩ |
        ⟨pair, version, events, behind, shaken, upgraded⟩
    · rw [startTls_failed connection transport failed]
      exact ⟨some .plain, [], connection.laying, connection, rfl⟩
    · rw [startTls_failed connection transport failed, laid]
      exact ⟨some .plain, [], laying, connection, rfl⟩
    · have kept := shake_stream pair [] connection.take.discard.1.lay.2
      rw [shaken, laid] at kept
      rw [startTls_failed connection transport failed]
      exact ⟨some .plain, [], laying, behind,
        congrArg (fun c => { c with transport := some .plain }) kept⟩
    · have kept := shake_stream pair [] connection.take.discard.1.lay.2
      rw [shaken, laid] at kept
      rw [startTls_upgraded connection transport upgraded]
      exact ⟨some (.tls version), [], laying, behind,
        congrArg (fun c => { c with transport := some (.tls version) }) kept⟩
  · rw [startTls_encrypted connection transport]
    exact ⟨connection.transport, connection.buffer, connection.laying, connection, rfl⟩

theorem startTls_keeps (connection : Connection) :
    connection.startTls.2.2.remote = connection.remote ∧
      connection.startTls.2.2.inFlight = connection.inFlight ∧
      connection.startTls.2.2.outlet = connection.outlet := by
  obtain ⟨transport, buffer, laying, stream, same⟩ := startTls_stream connection
  rw [same]
  exact ⟨rfl, rfl, rfl⟩

/-! ## Connections as clients -/

instance : HasOutlet Connection where
  outlet connection := connection.outlet
  through := withOutlet
  through_outlet _ := rfl
  write_through _ _ _ := rfl
  isAbandoned_through _ _ _ := rfl
  abandon_through _ _ _ := rfl
  startTls_through := startTls_withOutlet
  remote_through _ _ := rfl
  remote_abandon _ _ := rfl
  remote_startTls connection := (startTls_keeps connection).1

variable {τ : Type} [Storage τ]

/-- A message leaves the same requests in flight. -/
theorem handle_ids (responder : Responder) (message : Message) (connection : Connection) (storage : τ) :
    (responder.handle message connection storage).client.inFlight.ids = connection.inFlight.ids := by
  refine Dialogue.run_keeps responder.recorder connection storage (fun c => c.inFlight.ids)
    (fun _ _ => rfl) (.inr fun id c => c.inFlight.ids_abandon id) (.inr fun c => ?_)
  exact congrArg InFlight.ids (startTls_keeps c).2.1

/-- A message that is no request to abandon leaves the table of requests as it was. -/
theorem handle_inFlight (responder : Responder) {message : Message}
    (other : ∀ target, message.operation ≠ .abandon target) (connection : Connection) (storage : τ) :
    (responder.handle message connection storage).client.inFlight = connection.inFlight := by
  have never := Dialogue.plan_neverAbandons other responder.domain
  refine Dialogue.run_keeps responder.recorder connection storage (fun c => c.inFlight)
    (fun _ _ => rfl) (.inl never) (.inr fun c => ?_)
  exact (startTls_keeps c).2.1

/-- A request to abandon flags its target, if that is in flight, and does nothing else to the table. -/
theorem handle_abandon (responder : Responder) (id target : MessageId) (connection : Connection)
    (storage : τ) :
    (responder.handle ⟨id, .abandon target⟩ connection storage).client.inFlight =
      connection.inFlight.abandon target := by
  rw [Responder.handle, Dialogue.plan, Dialogue.run_log, Outcome.after_client, Dialogue.script,
    Dialogue.abandoning, Dialogue.run_abandon]
  split <;> rfl

theorem handle_remote (responder : Responder) (message : Message) (connection : Connection) (storage : τ) :
    (responder.handle message connection storage).client.remote = connection.remote :=
  Dialogue.run_keeps responder.recorder connection storage (fun c => c.remote) (fun _ _ => rfl)
    (.inr fun _ _ => rfl) (.inr fun c => (startTls_keeps c).1)

/-- Whatever a message asks for, its replies come to the same fault, or to none. -/
theorem handle_fault? (responder : Responder) (message : Message) (connection : Connection) (storage : τ) :
    (responder.handle message connection storage).client.outlet.fault? = connection.outlet.fault? := by
  refine Dialogue.run_keeps responder.recorder connection storage (fun c => c.outlet.fault?)
    (fun _ c => c.outlet.fault?_write) (.inr fun _ _ => rfl) (.inr fun c => ?_)
  exact congrArg Outlet.fault? (startTls_keeps c).2.2

end LdapDecoy.Server.Connection
