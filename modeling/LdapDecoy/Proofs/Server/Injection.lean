import LdapDecoy.Proofs.Server.Transport

/-!
# Octets behind a request to upgrade

A client can send more octets in one go with a request to upgrade. On a connection in plain anybody could have put
them there: they are dropped, whatever the upgrade comes to, and the rest of the session is the same as without
them. On an encrypted connection they are kept, and the session goes on as if they arrived behind the replies.
-/
namespace LdapDecoy.Server
open Ldap Responder

variable {τ : Type} [Storage τ]

/-- What is served, with what is recorded at the end of a session. -/
def Served.dismissed (responder : Responder) (served : Served τ) : Served τ :=
  let (acts, storage) := served.connection.dismiss responder served.storage
  ⟨served.connection, storage, served.acts ++ acts⟩

namespace Connection

/-- A session from an item on that has been taken from the connection. -/
def follow (responder : Responder) (item : Item) (connection : Connection) (storage : τ) : Served τ :=
  let turn := connection.turn responder item storage
  if turn.2 then (serve responder turn.1.connection turn.1.storage).after turn.1.acts else turn.1

theorem serve_eq_follow (responder : Responder) (connection : Connection) (storage : τ) :
    serve responder connection storage =
      follow responder connection.next.1 connection.next.2 storage := by
  rw [follow]
  rcases turned : connection.next.2.turn responder connection.next.1 storage with ⟨served, _ | _⟩
  · rw [serve_last turned]
    rfl
  · rw [serve_more turned]
    rfl

/-- That two sessions, or the rests of two, give the same replies and the same records. -/
structure SameAccount (served other : Served τ) : Prop where
  replies : Act.replies served.acts = Act.replies other.acts
  offers : Act.offers served.acts = Act.offers other.acts
  storage : served.storage = other.storage

omit [Storage τ] in
/-- The same may stand behind two accounts that are the same. -/
theorem SameAccount.append {served other : Served τ} (same : SameAccount served other)
    {connection connection' : Connection} (acts : List Act) (storage : τ) :
    SameAccount ⟨connection, storage, served.acts ++ acts⟩ ⟨connection', storage, other.acts ++ acts⟩ := by
  refine ⟨?_, ?_, rfl⟩
  · rw [Act.replies_append, Act.replies_append, same.replies]
  · rw [Act.offers_append, Act.offers_append, same.offers]

omit [Storage τ] in
/-- And in front of the same the two may stand. -/
theorem SameAccount.after {served other : Served τ} (same : SameAccount served other) (behind : Served τ) :
    SameAccount (behind.after served.acts) (behind.after other.acts) := by
  refine ⟨?_, ?_, rfl⟩
  · change Act.replies (served.acts ++ behind.acts) = Act.replies (other.acts ++ behind.acts)
    rw [Act.replies_append, Act.replies_append, same.replies]
  · change Act.offers (served.acts ++ behind.acts) = Act.offers (other.acts ++ behind.acts)
    rw [Act.offers_append, Act.offers_append, same.offers]

theorem SameAccount.dismissed {served other : Served τ} (same : SameAccount served other)
    (remote : served.connection.remote = other.connection.remote) (responder : Responder) :
    SameAccount (served.dismissed responder) (other.dismissed responder) := by
  have last : served.connection.dismiss responder served.storage =
      other.connection.dismiss responder other.storage := by
    rw [dismiss, dismiss, note, note, remote, same.storage]
  rw [Served.dismissed, Served.dismissed, last]
  exact same.append _ _

/-! ## In plain -/

/-- The connection with other octets that have been read and not yet consumed. -/
def holding (octets : Bytes) (connection : Connection) : Connection :=
  { connection with buffer := octets }

/-- What an upgrade in plain comes to and leaves has nothing to do with the octets that have been read. -/
theorem startTls_holding (octets : Bytes) (connection : Connection)
    (plain : connection.transport = some .plain) :
    (connection.holding octets).startTls.1 = connection.startTls.1 ∧
      (connection.holding octets).startTls.2.2 = connection.startTls.2.2 := by
  let other := connection.holding octets
  -- the stream that is upgraded is the one in front of which everything read has been dropped
  have same : other.take.discard.1 = connection.take.discard.1 := rfl
  rcases upgrade_cases connection.take.discard.1 with
    ⟨_, _, failed⟩ | ⟨_, _, failed⟩ | ⟨_, _, _, _, _, failed⟩ | ⟨_, _, _, _, _, upgraded⟩
  · rw [startTls_failed other plain failed, startTls_failed connection plain failed]
    exact ⟨rfl, rfl⟩
  · rw [startTls_failed other plain failed, startTls_failed connection plain failed]
    exact ⟨rfl, rfl⟩
  · rw [startTls_failed other plain failed, startTls_failed connection plain failed]
    exact ⟨rfl, rfl⟩
  · rw [startTls_upgraded other plain upgraded, startTls_upgraded connection plain upgraded]
    exact ⟨rfl, rfl⟩

/-- That two outcomes are the same but for what is logged, and for the connection where the session ends. -/
structure SameOutcome (outcome other : Outcome Connection τ) : Prop where
  result : outcome.result = other.result
  replies : Act.replies outcome.acts = Act.replies other.acts
  offers : Act.offers outcome.acts = Act.offers other.acts
  storage : outcome.storage = other.storage
  remote : outcome.client.remote = other.client.remote
  client : ∀ flow, other.result = .ok flow → outcome.client = other.client

namespace SameOutcome

variable {outcome other : Outcome Connection τ}

omit [Storage τ] in
theorem after (same : SameOutcome outcome other) (acts : List Act) :
    SameOutcome (outcome.after acts) (other.after acts) := by
  refine ⟨same.result, ?_, ?_, same.storage, same.remote, same.client⟩
  · rw [Outcome.after_acts, Outcome.after_acts, Act.replies_append, Act.replies_append, same.replies]
  · rw [Outcome.after_acts, Outcome.after_acts, Act.offers_append, Act.offers_append, same.offers]

omit [Storage τ] in
theorem logged (outcome : Outcome Connection τ) (events events' : List Event) :
    SameOutcome (outcome.after (events.map .logged)) (outcome.after (events'.map .logged)) := by
  refine ⟨rfl, ?_, ?_, rfl, rfl, fun _ _ => rfl⟩
  · rw [Outcome.after_acts, Outcome.after_acts, Act.replies_append, Act.replies_append,
      Act.replies_map_logged, Act.replies_map_logged]
  · rw [Outcome.after_acts, Outcome.after_acts, Act.offers_append, Act.offers_append,
      Act.offers_map_logged, Act.offers_map_logged]

end SameOutcome

theorem run_upgrade_holding (recorder : Recorder) (id : MessageId) (octets : Bytes)
    (connection : Connection) (plain : connection.transport = some .plain) (storage : τ) :
    SameOutcome ((Dialogue.upgrade id).run recorder (connection.holding octets) storage)
      ((Dialogue.upgrade id).run recorder connection storage) := by
  let ready : Reply := .of id (.extended .success (some startTlsOid) none)
  let behind := connection.write.2
  rw [Dialogue.upgrade]
  rcases written : connection.write.1 with fault | _
  · have here : Client.write ready connection = (.error fault, behind) := Prod.ext written rfl
    have there : Client.write ready (connection.holding octets) = (.error fault, behind.holding octets) :=
      Prod.ext written rfl
    rw [Dialogue.run_reply_error recorder storage here, Dialogue.run_reply_error recorder storage there]
    refine ⟨rfl, rfl, rfl, rfl, rfl, ?_⟩
    intro flow succeeds
    cases succeeds
  · have here : Client.write ready connection = (.ok (), behind) := Prod.ext written rfl
    have there : Client.write ready (connection.holding octets) = (.ok (), behind.holding octets) :=
      Prod.ext written rfl
    obtain ⟨upgraded, left⟩ := startTls_holding octets behind plain
    rw [Dialogue.run_reply_ok recorder storage here, Dialogue.run_reply_ok recorder storage there,
      Dialogue.run_startTls, Dialogue.run_startTls,
      show Client.startTls (behind.holding octets) = (behind.holding octets).startTls from rfl, upgraded, left]
    exact (SameOutcome.logged _ _ _).after _

theorem handle_holding (responder : Responder) (id : MessageId) (value : Option Bytes) (octets : Bytes)
    (connection : Connection) (plain : connection.transport = some .plain) (storage : τ) :
    SameOutcome ((connection.holding octets).handle responder ⟨id, .extended startTlsOid value⟩ storage)
      (connection.handle responder ⟨id, .extended startTlsOid value⟩ storage) := by
  have run := (run_upgrade_holding responder.recorder id octets (connection.begin id) plain storage).after
    [.logged (.tagged .securityInfo "LDAP client")]
  rw [← Dialogue.run_log, ← Dialogue.run_log, ← Dialogue.plan_upgrade responder.domain id value] at run
  refine ⟨run.result, run.replies, run.offers, run.storage, run.remote, ?_⟩
  intro flow succeeds
  exact congrArg (fun client => client.finish id) (run.client flow succeeds)

/-- The rest of a session in plain from a request to upgrade on is the same, whatever stands behind the request. -/
theorem follow_holding (responder : Responder) (id : MessageId) (value : Option Bytes) (octets : Bytes)
    (connection : Connection) (plain : connection.transport = some .plain) (storage : τ) :
    let upgrade : Item := .message ⟨id, .extended startTlsOid value⟩
    SameAccount (((connection.holding octets).follow responder upgrade storage).dismissed responder)
      ((connection.follow responder upgrade storage).dismissed responder) := by
  intro upgrade
  let injected := (connection.holding octets).handle responder ⟨id, .extended startTlsOid value⟩ storage
  let bare := connection.handle responder ⟨id, .extended startTlsOid value⟩ storage
  have same : SameOutcome injected bare := handle_holding responder id value octets connection plain storage
  have account : SameAccount ⟨injected.client, injected.storage, injected.acts⟩
      ⟨bare.client, bare.storage, bare.acts⟩ := ⟨same.replies, same.offers, same.storage⟩
  rcases result : bare.result with fault | flow
  · have noted : note responder "Unable to write to LDAP client " injected.client (": " ++ fault.message)
        injected.storage =
      note responder "Unable to write to LDAP client " bare.client (": " ++ fault.message) bare.storage := by
      rw [note, note, same.remote, same.storage]
    rw [follow, follow, turn_of_error result, turn_of_error (same.result.trans result)]
    refine SameAccount.dismissed ?_ same.remote responder
    change SameAccount (Served.mk injected.client _ (injected.acts ++ _)) _
    rw [noted]
    exact account.append _ _
  · have client : injected.client = bare.client := same.client flow result
    rw [follow, follow, turn_of_ok result, turn_of_ok (same.result.trans result)]
    cases flow with
    | close => exact account.dismissed same.remote responder
    | proceed =>
        change SameAccount (((serve responder injected.client injected.storage).after injected.acts).dismissed
          responder) (((serve responder bare.client bare.storage).after bare.acts).dismissed responder)
        rw [client, same.storage]
        exact (account.after _).dismissed rfl responder

/-! ## On an encrypted connection -/

/-- The connection with what has been read still to arrive. -/
def unread (connection : Connection) : Connection :=
  { connection with buffer := [], inbox := .data connection.buffer :: connection.inbox }

theorem next_unread (connection : Connection) : connection.unread.next = connection.next := by
  have incomplete : frame connection.unread.buffer = .incomplete := rfl
  rw [next_of_cons incomplete rfl]
  rfl

theorem unread_unnoticed : Unnoticed unread :=
  ⟨fun _ => rfl, fun _ _ => rfl, fun _ _ => rfl, fun _ _ => rfl⟩

/-- What is done about a request to upgrade on an encrypted connection. -/
def refusal (id : MessageId) : Dialogue :=
  .reply (.of id (.extended .success (some startTlsOid) none)) <|
    .log (.tagged .securityError "StartTLS handshake failed") <|
      .reply (Dialogue.upgradeFailed id .alreadyEncrypted)
        (Dialogue.recorded (Transcript.startTls (.error .alreadyEncrypted)))

theorem run_upgrade_encrypted (recorder : Recorder) (id : MessageId) {version : Tls.Version}
    (connection : Connection) (encrypted : connection.transport = some (.tls version)) (storage : τ) :
    (Dialogue.upgrade id).run recorder connection storage = (refusal id).run recorder connection storage := by
  let ready : Reply := .of id (.extended .success (some startTlsOid) none)
  let behind := connection.write.2
  rw [Dialogue.upgrade, refusal]
  rcases written : connection.write.1 with fault | _
  · have here : Client.write ready connection = (.error fault, behind) := Prod.ext written rfl
    rw [Dialogue.run_reply_error recorder storage here, Dialogue.run_reply_error recorder storage here]
  · have here : Client.write ready connection = (.ok (), behind) := Prod.ext written rfl
    have refused : Client.startTls behind = (.error .alreadyEncrypted, [], behind) :=
      startTls_encrypted behind encrypted
    rw [Dialogue.run_reply_ok recorder storage here, Dialogue.run_reply_ok recorder storage here,
      Dialogue.run_startTls, refused]
    rfl

theorem handle_unread (responder : Responder) (id : MessageId) (value : Option Bytes) {version : Tls.Version}
    (connection : Connection) (encrypted : connection.transport = some (.tls version)) (storage : τ) :
    connection.unread.handle responder ⟨id, .extended startTlsOid value⟩ storage =
      (connection.handle responder ⟨id, .extended startTlsOid value⟩ storage).withClient unread := by
  have never : (refusal id).NeverUpgrades := trivial
  have run := Dialogue.run_unnoticed unread_unnoticed responder.recorder never (connection.begin id) storage
  rw [← run_upgrade_encrypted responder.recorder id (connection.begin id) encrypted,
    ← run_upgrade_encrypted responder.recorder id (connection.begin id).unread encrypted] at run
  have begun : connection.unread.begin id = (connection.begin id).unread := rfl
  simp only [Connection.handle, Responder.handle, Dialogue.plan_upgrade, Dialogue.run_log, begun, run]
  rfl

theorem turn_unread (responder : Responder) (id : MessageId) (value : Option Bytes) {version : Tls.Version}
    (connection : Connection) (encrypted : connection.transport = some (.tls version)) (storage : τ) :
    connection.unread.turn responder (.message ⟨id, .extended startTlsOid value⟩) storage =
      let turn := connection.turn responder (.message ⟨id, .extended startTlsOid value⟩) storage
      ({ turn.1 with connection := turn.1.connection.unread }, turn.2) :=
  turn_of_unnoticed unread_unnoticed (handle_unread responder id value connection encrypted storage)

theorem serve_unread (responder : Responder) (connection : Connection) (storage : τ) :
    serve responder connection.unread storage = serve responder connection storage := by
  rw [serve_eq_follow, next_unread, ← serve_eq_follow]

/-- The rest of an encrypted session from a request to upgrade on does the same, whether what stands behind the
request has been read already or is still to arrive. -/
theorem follow_unread (responder : Responder) (id : MessageId) (value : Option Bytes) {version : Tls.Version}
    (connection : Connection) (encrypted : connection.transport = some (.tls version)) (storage : τ) :
    let upgrade : Item := .message ⟨id, .extended startTlsOid value⟩
    let read := (connection.follow responder upgrade storage).dismissed responder
    let arriving := (connection.unread.follow responder upgrade storage).dismissed responder
    read.acts = arriving.acts ∧ read.storage = arriving.storage := by
  intro upgrade read arriving
  have turned := turn_unread responder id value connection encrypted storage
  change (Served.dismissed responder (connection.follow responder upgrade storage)).acts =
      (Served.dismissed responder (connection.unread.follow responder upgrade storage)).acts ∧
    (Served.dismissed responder (connection.follow responder upgrade storage)).storage =
      (Served.dismissed responder (connection.unread.follow responder upgrade storage)).storage
  rw [follow, follow, turned]
  cases goesOn : (connection.turn responder upgrade storage).2 with
  | false => exact ⟨rfl, rfl⟩
  | true =>
      dsimp only
      rw [serve_unread]
      exact ⟨rfl, rfl⟩

/-! ## Both -/

/-- What a client sends behind a request to upgrade, in one go with it. In plain the rest of the session, with its
replies and its records, is the same as without these octets, whatever comes of the upgrade; on an encrypted
connection it is the same as if they arrived behind the replies. -/
theorem upgrade_drops_plaintext (responder : Responder) (connection : Connection) (storage : τ)
    {id : MessageId} {value : Option Bytes}
    (asked : connection.next.1 = .message ⟨id, .extended startTlsOid value⟩) :
    let session := (serve responder connection storage).dismissed responder
    let goingOn (behind : Connection) := (behind.follow responder connection.next.1 storage).dismissed responder
    (connection.transport = some .plain →
      SameAccount session (goingOn (connection.next.2.holding []))) ∧
    ∀ version, connection.transport = some (.tls version) →
      session.acts = (goingOn connection.next.2.unread).acts ∧
        session.storage = (goingOn connection.next.2.unread).storage := by
  intro session goingOn
  have followed : session = goingOn connection.next.2 :=
    congrArg (Served.dismissed responder) (serve_eq_follow responder connection storage)
  have transport := next_transport connection
  constructor
  · intro plain
    have same := follow_holding responder id value connection.next.2.buffer (connection.next.2.holding [])
      (transport.trans plain) storage
    rw [← asked] at same
    rw [followed]
    exact same
  · intro version encrypted
    have same := follow_unread responder id value connection.next.2 (transport.trans encrypted) storage
    rw [← asked] at same
    rw [followed]
    exact same

/-- A bind behind a request to upgrade, in one go with it: over plain it is dropped, and over TLS it is answered. -/
theorem upgrade_drops_bind :
    let responder : Responder := ⟨"t", ⟨"token", "now"⟩⟩
    let remote : Net.Endpoint := ⟨.v4 127 0 0 1, 4000, 0⟩
    let upgrader : Tls.Upgrader := ⟨none, ⟨⟨.rsa 1 1, []⟩, [], .rsa 1 1⟩⟩
    let request : Bytes := [0x30, 0x1d, 2, 1, 1, 0x77, 0x18, 0x80, 0x16] ++ Text.bytes "1.3.6.1.4.1.1466.20037"
    let bind : Bytes := [0x30, 12, 2, 1, 2, 0x60, 7, 2, 1, 3, 4, 0, 0x80, 0]
    let plain := fresh remote upgrader ⟨[], [], []⟩ [.data (request ++ bind)]
    let encrypted := plain.withTransport (some (.tls .tls12))
    let session (connection : Connection) :=
      (serve responder connection Storage.Memory.empty).dismissed responder
    let goingOn (behind : Connection) :=
      (behind.follow responder plain.next.1 Storage.Memory.empty).dismissed responder
    let ready : Reply := .of 1 (.extended .success (some "1.3.6.1.4.1.1466.20037") none)
    let failed (text : String) : Reply :=
      .of 1 (.extended (.of .operationsError text) (some "1.3.6.1.4.1.1466.20037") none)
    plain.next.2.buffer = bind ∧
      SameAccount (session plain) (goingOn (plain.next.2.holding [])) ∧
      Act.replies (session plain).acts =
        [ready, failed "StartTLS Handshake error : \"no handshake record\""] ∧
      (session encrypted).acts = (goingOn encrypted.next.2.unread).acts ∧
      Act.replies (session encrypted).acts =
        [ready, failed "StartTLS Handshake error : \"connection is already using tls\"",
          .of 2 (.bind .success none)] := by
  intro responder remote upgrader request bind plain encrypted session goingOn ready failed
  have asked : plain.next.1 = .message ⟨1, .extended startTlsOid none⟩ := by with_unfolding_all rfl
  have asked' : encrypted.next.1 = .message ⟨1, .extended startTlsOid none⟩ := by with_unfolding_all rfl
  obtain ⟨dropped, _⟩ := upgrade_drops_plaintext responder plain Storage.Memory.empty asked
  obtain ⟨_, heard⟩ := upgrade_drops_plaintext responder encrypted Storage.Memory.empty asked'
  have acts := (heard .tls12 rfl).1
  rw [asked', ← asked] at acts
  exact ⟨by with_unfolding_all rfl, dropped rfl, by with_unfolding_all rfl, acts, by with_unfolding_all rfl⟩

end Connection

end LdapDecoy.Server
