import LdapDecoy.Proofs.Server.Transport

/-!
# Reads of a stream

How a client's octets are cut into reads does not show. Two connections that bring the same stream yield the same
items, and what is done about an item that asks for no upgrade has nothing to do with what has been read besides and
what is still to come. So two sessions over them do the same, whatever there is at the end of the stream, and
through whatever outlet.
-/
namespace LdapDecoy.Server
open Ldap Responder

namespace Stream

theorem first_mem_heard (stream : Bytes) : (first stream).1 ∈ heard (items stream) := by
  rw [items]
  split <;> (rw [heard]; split <;> exact .head _)

/-- What is heard behind a first item that is not the last is what is heard of the rest. -/
theorem heard_items {stream : Bytes} (notLast : (first stream).1.isLast = false) :
    heard (items stream) = (first stream).1 :: heard (items (first stream).2) := by
  cases consumed : (first stream).1.isConsumed with
  | true => rw [items, dif_pos consumed, heard_of_not_last notLast]
  | false =>
      have last := Connection.Item.isLast_of_unconsumed consumed
      rw [notLast] at last
      cases last

end Stream

namespace Connection

variable {τ : Type} [Storage τ]

/-! ## What a connection brings -/

/-- The connection with other octets to bring: some that have been read, and some that are still to arrive. -/
def bringing (buffer : Bytes) (inbox : List Arrival) (connection : Connection) : Connection :=
  { connection with buffer, inbox }

theorem bringing_unnoticed (buffer : Bytes) (inbox : List Arrival) : Unnoticed (bringing buffer inbox) :=
  ⟨fun _ => rfl, fun _ _ => rfl, fun _ _ => rfl, fun _ _ => rfl⟩

/-- What is done about anything but a request for an upgrade does not depend on what the connection brings. -/
theorem turn_bringing (responder : Responder) {item : Item} (other : item.asksUpgrade = false)
    (buffer : Bytes) (inbox : List Arrival) (connection : Connection) (storage : τ) :
    (connection.bringing buffer inbox).turn responder item storage =
      let turn := connection.turn responder item storage
      ({ turn.1 with connection := turn.1.connection.bringing buffer inbox }, turn.2) :=
  turn_unnoticed (bringing_unnoticed buffer inbox) (fun _ _ => rfl) (fun _ _ => rfl) responder other
    connection storage

/-- A turn without an upgrade leaves the octets behind the item as they were. -/
theorem turn_brings (responder : Responder) {item : Item} (other : item.asksUpgrade = false)
    {stream : Bytes} {connection : Connection} (brings : connection.Brings stream) (storage : τ) :
    (connection.turn responder item storage).1.connection.Brings stream := by
  have same := congrArg (fun turn => turn.1.connection)
    (turn_bringing responder other connection.buffer connection.inbox connection storage)
  obtain ⟨chunks, arriving, split⟩ := brings
  refine ⟨chunks, ?_, ?_⟩
  · exact (congrArg Connection.inbox same).trans arriving
  · rw [split]
    exact congrArg (· ++ chunks.flatten) (congrArg Connection.buffer same).symm

/-- Two connections that differ in what they bring alone, and the stream that each of them brings. -/
structure Abreast (stream stream' : Bytes) (connection other : Connection) : Prop where
  brings : connection.Brings stream
  brings' : other.Brings stream'
  alike : ∃ buffer inbox, other = connection.bringing buffer inbox

namespace Abreast

variable {stream stream' : Bytes} {connection other : Connection}
  (abreast : Abreast stream stream' connection other)
include abreast

theorem remote_eq : other.remote = connection.remote := by
  obtain ⟨buffer, inbox, alike⟩ := abreast.alike
  rw [alike]
  rfl

/-- The first of the two goes on by one item. -/
theorem first : Abreast (Stream.first stream).2 stream' connection.next.2 other := by
  obtain ⟨_, behind, buffer, inbox, same⟩ := next_brings abreast.brings
  obtain ⟨buffer', inbox', alike⟩ := abreast.alike
  refine ⟨behind, abreast.brings', buffer', inbox', ?_⟩
  rw [same]
  exact alike

/-- The second of the two goes on by one item. -/
theorem second : Abreast stream (Stream.first stream').2 connection other.next.2 := by
  obtain ⟨_, behind, buffer, inbox, same⟩ := next_brings abreast.brings'
  obtain ⟨buffer', inbox', alike⟩ := abreast.alike
  refine ⟨abreast.brings, behind, buffer, inbox, ?_⟩
  rw [same, alike]
  rfl

/-- Both do the same about an item that asks for no upgrade, and stay abreast. -/
theorem turn (responder : Responder) {item : Item} (noUpgrade : item.asksUpgrade = false) (storage : τ) :
    ∃ behind,
      other.turn responder item storage =
          ({ (connection.turn responder item storage).1 with connection := behind },
            (connection.turn responder item storage).2) ∧
        Abreast stream stream' (connection.turn responder item storage).1.connection behind := by
  have kept := turn_brings responder noUpgrade abreast.brings storage
  have kept' := turn_brings responder noUpgrade abreast.brings' storage
  obtain ⟨buffer, inbox, alike⟩ := abreast.alike
  have turned := turn_bringing responder noUpgrade buffer inbox connection storage
  rw [← alike] at turned
  rw [turned] at kept'
  exact ⟨_, turned, kept, kept', buffer, inbox, rfl⟩

/-- Both do the same about the next item, if it is the same for both and asks for no upgrade. -/
theorem advance (responder : Responder) (same : (Stream.first stream').1 = (Stream.first stream).1)
    (noUpgrade : (Stream.first stream).1.asksUpgrade = false) (storage : τ) :
    ∃ behind,
      other.advance responder storage =
          ({ (connection.advance responder storage).1 with connection := behind },
            (connection.advance responder storage).2) ∧
        Abreast (Stream.first stream).2 (Stream.first stream').2
          (connection.advance responder storage).1.connection behind := by
  obtain ⟨item, _⟩ := next_brings abreast.brings
  obtain ⟨item', _⟩ := next_brings abreast.brings'
  rw [Connection.advance, Connection.advance, item, item', same]
  exact abreast.first.second.turn responder noUpgrade storage

end Abreast

/-! ## Whole sessions -/

/-- A session does not go on behind an item that is the last. -/
theorem notLast_of_turn {responder : Responder} {item : Item} {connection : Connection} {storage : τ}
    (goesOn : (connection.turn responder item storage).2 = true) : item.isLast = false := by
  cases item with
  | unreadable _ | ended => cases goesOn
  | malformed _ => rfl
  | message message =>
      obtain ⟨id, operation⟩ := message
      cases operation with
      | unbind => cases goesOn
      | bind _ _ | search _ | modify _ _ | add _ _ | delete _ | modifyDn _ _ _ | compare _ _ _ | abandon _
      | extended _ _ | unexpected _ => rfl

/-- Over the same stream both sessions take the same turns. -/
theorem Abreast.takes {responder : Responder} {stream : Bytes} {connection other : Connection}
    (abreast : Abreast stream stream connection other)
    (noUpgrade : ∀ item ∈ Stream.heard (Stream.items stream), item.asksUpgrade = false)
    {turns : Nat} {storage : τ} {served : Served τ} (takes : Takes responder turns connection storage served) :
    ∃ behind, Takes responder turns other storage { served with connection := behind } ∧
      behind.remote = served.connection.remote := by
  induction takes generalizing stream other with
  | @last connection storage served stops =>
      obtain ⟨behind, turned, abreast'⟩ :=
        abreast.advance responder rfl (noUpgrade _ (Stream.first_mem_heard stream)) storage
      rw [stops] at turned abreast'
      exact ⟨behind, .last turned, abreast'.remote_eq⟩
  | @more turns connection storage served later onward rest ih =>
      obtain ⟨behind, turned, abreast'⟩ :=
        abreast.advance responder rfl (noUpgrade _ (Stream.first_mem_heard stream)) storage
      rw [onward] at turned abreast'
      have notLast : (Stream.first stream).1.isLast = false := by
        rw [← (next_brings abreast.brings).1]
        exact notLast_of_turn (congrArg Prod.snd onward)
      rw [Stream.heard_items notLast] at noUpgrade
      obtain ⟨final, takes', remote⟩ := ih abreast' fun item heard => noUpgrade item (.tail _ heard)
      exact ⟨final, .more turned takes', remote⟩

/-- Two sessions of a client that sends the same octets, cut into reads in whatever two ways, do the same in the same
order: the same replies and the same records, with the same storage behind them, whatever is malformed in the
stream and whatever is left over at its end. -/
theorem session_of_reads (responder : Responder) (remote : Net.Endpoint) (upgrader : Tls.Upgrader)
    (outlet : Outlet) (tree : Os.Files) (storage : τ) {chunks chunks' : List Bytes}
    (same : chunks.flatten = chunks'.flatten)
    (noUpgrade : ∀ item ∈ Stream.heard (Stream.items chunks.flatten), item.asksUpgrade = false) :
    let session (chunks : List Bytes) :=
      Connection.session responder { fresh remote upgrader tree (chunks.map .data) with outlet } storage
    (session chunks).acts = (session chunks').acts ∧
      (session chunks).storage = (session chunks').storage := by
  intro session
  let client (chunks : List Bytes) : Connection := { fresh remote upgrader tree (chunks.map .data) with outlet }
  let greeting := (client chunks).greet responder storage
  have abreast : Abreast chunks.flatten chunks.flatten (client chunks) (client chunks') :=
    ⟨⟨chunks, rfl, rfl⟩, ⟨chunks', rfl, same⟩, [], chunks'.map .data, rfl⟩
  obtain ⟨_, _, takes⟩ := exists_takes responder (client chunks) greeting.2
  obtain ⟨behind, takes', place⟩ := abreast.takes noUpgrade takes
  let served := serve responder (client chunks) greeting.2
  let served' := serve responder (client chunks') greeting.2
  have served_eq : served' = { served with connection := behind } := takes'.serve_eq
  have dismissed : served'.connection.dismiss responder served'.storage =
      served.connection.dismiss responder served.storage := by
    rw [served_eq, dismiss, dismiss, note, note, place]
  constructor
  · change greeting.1 ++ served.acts ++ (served.connection.dismiss responder served.storage).1 =
      greeting.1 ++ served'.acts ++ (served'.connection.dismiss responder served'.storage).1
    rw [dismissed, served_eq]
  · change (served.connection.dismiss responder served.storage).2 =
      (served'.connection.dismiss responder served'.storage).2
    rw [dismissed]

/-- A malformed message, a bind and the beginning of another message, in one read and octet by octet, with
replies that can be written and with none. -/
theorem session_of_single_octets :
    let responder : Responder := ⟨"t", ⟨"token", "now"⟩⟩
    let remote : Net.Endpoint := ⟨.v4 127 0 0 1, 4000, 0⟩
    let upgrader : Tls.Upgrader := ⟨none, ⟨.other [] [], []⟩, [], .other [] []⟩
    let stream : Bytes := [0x30, 5, 2, 1, 1, 0x5e, 0, 0x30, 12, 2, 1, 2, 0x60, 7, 2, 1, 3, 4, 0, 0x80, 0, 0x30, 5, 2]
    let octets := stream.map fun octet => [octet]
    let heard : List Item :=
      [.malformed .operationKind, .message ⟨2, .bind "" (.simple "")⟩, .unreadable leftover]
    let session (outlet : Outlet) (chunks : List Bytes) :=
      Connection.session responder { fresh remote upgrader ⟨[], [], []⟩ (chunks.map .data) with outlet }
        Storage.Memory.empty
    [stream].flatten = octets.flatten ∧
      Stream.heard (Stream.items [stream].flatten) = heard ∧
      (∀ item ∈ heard, item.asksUpgrade = false) ∧
      (session .working [stream]).acts = (session .working octets).acts ∧
      (session (.failing 0 .transportUnavailable) [stream]).acts =
        (session (.failing 0 .transportUnavailable) octets).acts ∧
      Act.replies (session .working [stream]).acts = [.of 2 (.bind .success none)] := by
  intro responder remote upgrader stream octets heard session
  have flat : [stream].flatten = octets.flatten := rfl
  have hears : Stream.heard (Stream.items [stream].flatten) = heard := by with_unfolding_all rfl
  have noUpgrade : ∀ item ∈ heard, item.asksUpgrade = false := by decide
  have same (outlet : Outlet) : (session outlet [stream]).acts = (session outlet octets).acts :=
    (session_of_reads responder remote upgrader outlet ⟨[], [], []⟩ Storage.Memory.empty flat
      (by rw [hears]; exact noUpgrade)).1
  exact ⟨flat, hears, noUpgrade, same .working, same _, by with_unfolding_all rfl⟩

end Connection

end LdapDecoy.Server
