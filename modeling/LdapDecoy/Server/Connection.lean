import LdapDecoy.InFlight
import LdapDecoy.Ldap.Wire
import LdapDecoy.Responder.Run
import LdapDecoy.Tls.Handshake

/-!
# Connections

A connected client: what has arrived from it and is not yet consumed, what will still arrive, and whether the
connection is encrypted. An upgrade takes the transport out and lays a TLS layer over the client's stream, which
the connection keeps a hold of, so that it can go on in plain where the upgrade fails; what had arrived in plain
is dropped. Reading and upgrading never add to what there is to read.
-/
namespace LdapDecoy.Server
open Ldap

/-- What arrives at a server while it waits for a client. -/
inductive Arrival where
  /-- Octets of the client, which one read takes. -/
  | data (octets : Bytes)
  /-- The client begins a handshake, in octets which are read as such where nothing waits for a hello. -/
  | hello (hello : Tls.Hello) (octets : Bytes := [])
  /-- A file has been replaced. -/
  | file (path : String) (content : Bytes)
  deriving DecidableEq, Repr

/-- How a client's handshake ended. -/
inductive Handshake where
  | accepted (version : Tls.Version) (leaf : Tls.Certificate)
  | refused
  deriving DecidableEq, Repr

inductive Transport where
  | plain
  | tls (version : Tls.Version)
  deriving DecidableEq, Repr

structure Connection where
  remote : Net.Endpoint
  inFlight : InFlight
  outlet : Responder.Outlet
  /-- Missing only while it is exchanged, and for good where an upgrade has lost the client's stream. -/
  transport : Option Transport
  /-- What has been read and not yet consumed. -/
  buffer : Bytes
  inbox : List Arrival
  /-- The handshakes of the client so far. -/
  handshakes : List Handshake
  upgrader : Tls.Upgrader
  /-- What the TLS library answers when a layer is to be laid over the stream, upgrade by upgrade; behind the list
  it lays each one. -/
  laying : List (Except TlsFault Unit)
  /-- The files as they are now. -/
  tree : Os.Files

namespace Connection

/-- A client that has just connected. -/
def fresh (remote : Net.Endpoint) (upgrader : Tls.Upgrader) (tree : Os.Files) (inbox : List Arrival) :
    Connection :=
  ⟨remote, .none, .working, some .plain, [], inbox, [], upgrader, [], tree⟩

end Connection

/-- How much there is in an arrival: its octets, that it arrives, and that it is a hello. -/
def Arrival.weight : Arrival → Nat
  | .data octets => octets.length + 1
  | .hello _ octets => octets.length + 2
  | .file _ _ => 1

def weights (inbox : List Arrival) : Nat := inbox.foldr (fun arrival n => arrival.weight + n) 0

/-- How much there is still to read. -/
def Connection.weight (connection : Connection) : Nat :=
  connection.buffer.length + weights connection.inbox

namespace Connection

/-- The connection of a client whose handshake has failed. -/
def refuse (connection : Connection) : Connection :=
  { connection with handshakes := connection.handshakes ++ [.refused] }

/-- The connection after an arrival has been read. A hello that nothing waits for is octets like any others, and the
handshake of its client fails. -/
def read (connection : Connection) (arrival : Arrival) (rest : List Arrival) : Connection :=
  match arrival with
  | .data octets => { connection with buffer := connection.buffer ++ octets, inbox := rest }
  | .hello _ octets => { connection.refuse with buffer := connection.buffer ++ octets, inbox := rest }
  | .file path content => { connection with tree := connection.tree.put path content, inbox := rest }

theorem read_weight {connection : Connection} {arrival : Arrival} {rest : List Arrival}
    (inbox : connection.inbox = arrival :: rest) :
    (connection.read arrival rest).weight < connection.weight := by
  cases arrival <;>
    simp only [read, refuse, weight, weights, inbox, Arrival.weight, List.foldr_cons,
      List.length_append] <;> omega

/-- What a connection yields next. -/
inductive Item where
  | message (message : Message)
  | malformed (malformation : Malformation)
  | unreadable (fault : SessionFault)
  /-- The client has ended, and everything has been consumed. -/
  | ended

/-- Octets of which no message will come. -/
def leftover : SessionFault := .codec "Custom \x7b kind: Other, error: \"bytes remaining on stream\" \x7d"

def oversize : SessionFault := .codec "Custom \x7b kind: OutOfMemory, error: \"lber request too large\" \x7d"

/-- The next item, and the connection behind it. -/
def next (connection : Connection) : Item × Connection :=
  match frame connection.buffer with
  | .message message rest => (.message message, { connection with buffer := rest })
  | .malformed malformation rest => (.malformed malformation, { connection with buffer := rest })
  | .tooLarge => (.unreadable oversize, connection)
  | .incomplete =>
    match _ : connection.inbox with
    | [] => (if connection.buffer.isEmpty then .ended else .unreadable leftover, connection)
    | arrival :: rest => next (connection.read arrival rest)
termination_by connection.inbox.length
decreasing_by
  cases arrival <;> simp_all [read]

/-- Whether the connection has been consumed from to yield an item. -/
def Item.isConsumed : Item → Bool
  | .message _ | .malformed _ => true
  | .unreadable _ | .ended => false

theorem next_weight (connection : Connection) (consumed : connection.next.1.isConsumed = true) :
    connection.next.2.weight < connection.weight := by
  fun_induction next connection with
  | case1 connection message rest framed =>
    have : rest.length < connection.buffer.length := frame_rest_shorter (by rw [framed]; rfl)
    simp only [weight]
    omega
  | case2 connection malformation rest framed =>
    have : rest.length < connection.buffer.length := frame_rest_shorter (by rw [framed]; rfl)
    simp only [weight]
    omega
  | case3 connection framed => contradiction
  | case4 connection framed inbox => split at consumed <;> contradiction
  | case5 connection framed arrival rest inbox ih =>
    exact Nat.lt_trans (ih consumed) (read_weight inbox)

/-- The end of a handshake, and the connection behind it. -/
abbrev Shaken := Except Tls.Flaw Tls.Version × Connection

/-- Waits for the client's hello. Octets that come in its place are taken for a record, `taken` being those that have
come; a hello behind the first of them belongs to the record. -/
def shake (pair : Tls.CertifiedKey) (taken : Bytes) (connection : Connection) : Shaken :=
  match _ : connection.inbox with
  | [] => (.error .noHello, connection)
  | .file path content :: rest => shake pair taken (connection.read (.file path content) rest)
  | .hello hello octets :: rest =>
    if taken.isEmpty then
      match pair.agree hello with
      | some version =>
        (.ok version, { connection with
          inbox := rest, handshakes := connection.handshakes ++ [.accepted version pair.leaf] })
      | none => (.error .noSharedVersion, { connection.refuse with inbox := rest })
    else shake pair taken { connection.refuse with inbox := .data octets :: rest }
  | .data octets :: rest =>
    let missing := Tls.recordSize (taken ++ octets) - taken.length
    if octets.length < missing then shake pair (taken ++ octets) { connection with inbox := rest }
    else (.error .noHello, { connection with inbox := .data (octets.drop missing) :: rest })
termination_by weights connection.inbox
decreasing_by
  all_goals simp_all [read, weights, Arrival.weight]

theorem shake_weight (pair : Tls.CertifiedKey) (taken : Bytes) (connection : Connection) :
    (connection.shake pair taken).2.weight ≤ connection.weight := by
  fun_induction shake pair taken connection with
  | case1 => exact Nat.le_refl _
  | case2 taken connection path content rest inbox ih =>
    exact Nat.le_trans ih (Nat.le_of_lt (read_weight inbox))
  | case3 taken connection hello octets rest inbox begins version agreed =>
    simp only [weight, weights, inbox, List.foldr_cons]
    omega
  | case4 taken connection hello octets rest inbox begins none =>
    simp only [refuse, weight, weights, inbox, List.foldr_cons]
    omega
  | case5 taken connection hello octets rest inbox begun ih =>
    refine Nat.le_trans ih ?_
    simp only [refuse, weight, weights, inbox, List.foldr_cons, Arrival.weight]
    omega
  | case6 taken connection octets rest inbox missing short ih =>
    refine Nat.le_trans ih ?_
    simp only [weight, weights, inbox, List.foldr_cons]
    omega
  | case7 taken connection octets rest inbox missing long =>
    simp only [weight, weights, inbox, List.foldr_cons, Arrival.weight, List.length_drop]
    omega

def discarding : Event :=
  .tagged .requestWarn "Discarding plaintext sent ahead of the TLS handshake"

/-- Drops what has been read, and logs it if that is anything. -/
def discard (connection : Connection) : Connection × List Event :=
  ({ connection with buffer := [] }, if connection.buffer.isEmpty then [] else [discarding])

/-! ## Upgrades -/

/-- A client's stream in a cell that the TLS layer over it and the connection both hold. -/
structure Shared where
  stream : Option Connection

/-- The server's side of a handshake with the stream in the cell. -/
def Shared.accept (shared : Shared) (pair : Tls.CertifiedKey) : Except Tls.Flaw Tls.Version × Shared :=
  match shared.stream with
  | none => (.error .noHello, shared)
  | some stream =>
    let (shaken, stream) := stream.shake pair []
    (shaken, ⟨some stream⟩)

/-- Why an upgrade has failed, and the client's stream where it could be had back. -/
structure Failed where
  fault : TlsFault
  stream : Option Connection

/-- Whether a TLS layer can be laid over the stream, before any octet of it is read. -/
def lay (stream : Connection) : Except TlsFault Unit × Connection :=
  match stream.laying with
  | [] => (.ok (), stream)
  | laid :: laying => (laid, { stream with laying })

/-- Laying a layer changes nothing but what the next one will come to. -/
theorem lay_stream (connection : Connection) : ∃ laying, connection.lay.2 = { connection with laying } := by
  unfold lay
  split
  · exact ⟨connection.laying, rfl⟩
  · rename_i laying _
    exact ⟨laying, rfl⟩

/-- Upgrades a stream whose transport has been taken out. -/
def upgrade (stream : Connection) : Except Failed (Tls.Version × Shared) × List Event :=
  match stream.upgrader.acceptor stream.tree with
  | (.error fault, events) => (.error ⟨fault, some stream⟩, events)
  | (.ok pair, events) =>
    let (laid, stream) := stream.lay
    let shared : Shared := ⟨some stream⟩
    match laid with
    | .error fault => (.error ⟨fault, shared.stream⟩, events)
    | .ok () =>
      match shared.accept pair with
      | (.error flaw, shared) => (.error ⟨.handshake flaw, shared.stream⟩, events)
      | (.ok version, shared) => (.ok (version, shared), events)

/-- A connection from which nothing comes any more, and through which nothing can be written. -/
def lose (connection : Connection) : Connection :=
  { connection with
    transport := none, outlet := .failing 0 .transportUnavailable, buffer := [], inbox := [] }

/-- The connection with a transport over its stream again, which is lost where there is none. -/
def restore (taken : Connection) (transport : Transport) : Option Connection → Connection
  | some stream => { stream with transport := some transport }
  | none => taken.lose

def losing : Event := .tagged .securityError "Lost the client socket during a failed TLS handshake"

/-- The connection with its transport taken out. -/
def take (connection : Connection) : Connection := { connection with transport := none }

/-- Encrypts the connection, unless it is encrypted already. -/
def startTls (connection : Connection) : Except TlsFault Unit × List Event × Connection :=
  let taken := connection.take
  match connection.transport with
  | none => (.error .transportUnavailable, [], connection)
  | some (.tls version) => (.error .alreadyEncrypted, [], taken.restore (.tls version) (some taken))
  | some .plain =>
    let (stream, discarded) := taken.discard
    match stream.upgrade with
    | (.ok (version, shared), events) =>
      (.ok (), discarded ++ events, taken.restore (.tls version) shared.stream)
    | (.error failed, events) =>
      (.error failed.fault, discarded ++ events ++ (if failed.stream.isSome then [] else [losing]),
        taken.restore .plain failed.stream)

section
variable (stream : Connection) {events : List Event}

theorem upgrade_unaccepted {fault : TlsFault}
    (refused : stream.upgrader.acceptor stream.tree = (.error fault, events)) :
    stream.upgrade = (.error ⟨fault, some stream⟩, events) := by
  rw [upgrade, refused]

variable {pair : Tls.CertifiedKey} (accepted : stream.upgrader.acceptor stream.tree = (.ok pair, events))
include accepted

theorem upgrade_unlaid {fault : TlsFault} (unlaid : stream.lay.1 = .error fault) :
    stream.upgrade = (.error ⟨fault, some stream.lay.2⟩, events) := by
  simp only [upgrade, accepted, unlaid]

variable (laid : stream.lay.1 = .ok ())
include laid

theorem upgrade_unshaken {flaw : Tls.Flaw} {behind : Connection}
    (shaken : stream.lay.2.shake pair [] = (.error flaw, behind)) :
    stream.upgrade = (.error ⟨.handshake flaw, some behind⟩, events) := by
  simp only [upgrade, accepted, laid, Shared.accept, shaken]

theorem upgrade_shaken {version : Tls.Version} {behind : Connection}
    (shaken : stream.lay.2.shake pair [] = (.ok version, behind)) :
    stream.upgrade = (.ok (version, ⟨some behind⟩), events) := by
  simp only [upgrade, accepted, laid, Shared.accept, shaken]

end

/-- Where an upgrade leaves the client's stream: as it was when there is no pair to show, as it is behind the
laying of a layer when that fails, and otherwise where the handshake has left it. It is never lost. -/
theorem upgrade_cases (stream : Connection) :
    (∃ fault events, stream.upgrade = (.error ⟨fault, some stream⟩, events)) ∨
    (∃ fault events, stream.upgrade = (.error ⟨fault, some stream.lay.2⟩, events)) ∨
    (∃ pair flaw events behind, stream.lay.2.shake pair [] = (.error flaw, behind) ∧
      stream.upgrade = (.error ⟨.handshake flaw, some behind⟩, events)) ∨
    (∃ pair version events behind, stream.lay.2.shake pair [] = (.ok version, behind) ∧
      stream.upgrade = (.ok (version, ⟨some behind⟩), events)) := by
  rcases answer : stream.upgrader.acceptor stream.tree with ⟨fault | pair, events⟩
  · exact .inl ⟨fault, events, upgrade_unaccepted stream answer⟩
  rcases laid : stream.lay.1 with fault | _
  · exact .inr (.inl ⟨fault, events, upgrade_unlaid stream answer laid⟩)
  rcases shaken : stream.lay.2.shake pair [] with ⟨flaw | version, behind⟩
  · exact .inr (.inr (.inl ⟨pair, flaw, events, behind, shaken, upgrade_unshaken stream answer laid shaken⟩))
  · exact .inr (.inr (.inr
      ⟨pair, version, events, behind, shaken, upgrade_shaken stream answer laid shaken⟩))

section
variable (connection : Connection)

theorem startTls_lost (missing : connection.transport = none) :
    connection.startTls = (.error .transportUnavailable, [], connection) := by
  simp only [startTls, missing]

/-- A connection that is encrypted already gets its transport back as it was. -/
theorem startTls_encrypted {version : Tls.Version} (transport : connection.transport = some (.tls version)) :
    connection.startTls = (.error .alreadyEncrypted, [], connection) := by
  simp only [startTls, transport, restore, take]
  rw [← transport]

variable (plain : connection.transport = some .plain)
include plain

/-- A failed upgrade leaves the connection in plain over the stream that could be had back. -/
theorem startTls_failed {fault : TlsFault} {events : List Event} {stream : Connection}
    (failed : connection.take.discard.1.upgrade = (.error ⟨fault, some stream⟩, events)) :
    connection.startTls =
      (.error fault, connection.discard.2 ++ events, { stream with transport := some .plain }) := by
  simp only [startTls, plain, failed, restore, Option.isSome_some, if_true, List.append_nil]
  rfl

theorem startTls_upgraded {version : Tls.Version} {events : List Event} {stream : Connection}
    (upgraded : connection.take.discard.1.upgrade = (.ok (version, ⟨some stream⟩), events)) :
    connection.startTls =
      (.ok (), connection.discard.2 ++ events, { stream with transport := some (.tls version) }) := by
  simp only [startTls, plain, upgraded, restore]
  rfl

end

/-- Upgrading adds nothing to what there is to read. -/
theorem startTls_weight (connection : Connection) :
    connection.startTls.2.2.weight ≤ connection.weight := by
  have discarded : connection.take.discard.1.weight ≤ connection.weight := by
    simp only [take, discard, weight, List.length_nil]
    omega
  have laid : connection.take.discard.1.lay.2.weight = connection.take.discard.1.weight := by
    obtain ⟨laying, same⟩ := lay_stream connection.take.discard.1
    rw [same]
    rfl
  have shakes (pair : Tls.CertifiedKey) :
      (connection.take.discard.1.lay.2.shake pair []).2.weight ≤ connection.weight :=
    Nat.le_trans (shake_weight pair [] _) (laid ▸ discarded)
  rcases transport : connection.transport with _ | _ | version
  · have kept := startTls_lost connection transport
    exact Nat.le_of_eq (congrArg (·.2.2.weight) kept)
  · rcases upgrade_cases connection.take.discard.1 with
      ⟨fault, events, failed⟩ | ⟨fault, events, failed⟩ | ⟨pair, flaw, events, behind, shaken, failed⟩ |
        ⟨pair, version, events, behind, shaken, upgraded⟩
    · rw [startTls_failed connection transport failed]
      exact discarded
    · rw [startTls_failed connection transport failed]
      exact laid ▸ discarded
    · have shorter := shakes pair
      rw [shaken] at shorter
      rw [startTls_failed connection transport failed]
      exact shorter
    · have shorter := shakes pair
      rw [shaken] at shorter
      rw [startTls_upgraded connection transport upgraded]
      exact shorter
  · have kept := startTls_encrypted connection transport
    exact Nat.le_of_eq (congrArg (·.2.2.weight) kept)

/-- Whether a reply reaches the client, and the connection behind it. -/
def write (connection : Connection) : Except SessionFault Unit × Connection :=
  let (written, outlet) := connection.outlet.write
  (written, { connection with outlet })

instance : Responder.Client Connection where
  remote connection := connection.remote
  write _ connection := connection.write
  isAbandoned id connection := connection.inFlight.isAbandoned id
  abandon id connection :=
    (connection.inFlight.contains id,
      { connection with inFlight := connection.inFlight.abandon id })
  startTls connection := connection.startTls

/-- Handling a message adds nothing to what there is to read. -/
theorem handle_weight {τ : Type} [Storage τ] (responder : Responder) (message : Message)
    (connection : Connection) (storage : τ) :
    (responder.handle message connection storage).client.weight ≤ connection.weight :=
  Responder.Dialogue.run_le weight (fun _ _ => Nat.le_refl _) (fun _ _ => Nat.le_refl _)
    startTls_weight _ _ _ _

end Connection

end LdapDecoy.Server
