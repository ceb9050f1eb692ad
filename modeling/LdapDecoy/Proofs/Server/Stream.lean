import LdapDecoy.Proofs.Ldap.Framing
import LdapDecoy.Server.Connection

/-!
# The items of a stream

What a connection yields, read off the whole stream that a client sends. How the stream is cut into reads does
not matter: the next item of a connection is the first item of what it has read and will read.
-/
namespace LdapDecoy.Server
open Ldap

namespace Stream
open Connection (Item leftover oversize)

/-- The first item of a stream that ends, and the stream behind it. -/
def first (stream : Bytes) : Item × Bytes :=
  match frame stream with
  | .message message rest => (.message message, rest)
  | .malformed malformation rest => (.malformed malformation, rest)
  | .tooLarge => (.unreadable oversize, stream)
  | .incomplete => (if stream.isEmpty then .ended else .unreadable leftover, stream)

theorem first_shorter {stream : Bytes} (consumed : (first stream).1.isConsumed = true) :
    (first stream).2.length < stream.length := by
  unfold first at consumed ⊢
  cases framed : frame stream with
  | message message rest => exact frame_rest_shorter (by rw [framed]; rfl)
  | malformed malformation rest => exact frame_rest_shorter (by rw [framed]; rfl)
  | tooLarge =>
      rw [framed] at consumed
      cases consumed
  | incomplete =>
      rw [framed] at consumed
      dsimp only at consumed
      split at consumed <;> cases consumed

/-- All items of a stream that ends, the last of them being the one behind which there is none. -/
def items (stream : Bytes) : List Item :=
  if _consumed : (first stream).1.isConsumed = true then (first stream).1 :: items (first stream).2
  else [(first stream).1]
termination_by stream.length
decreasing_by exact first_shorter _consumed

/-- The first item of a stream is the first item of its beginning, once that has one. -/
theorem first_append {stream : Bytes} (complete : frame stream ≠ .incomplete) (more : Bytes) :
    first (stream ++ more) = ((first stream).1, (first stream).2 ++ more) := by
  rw [first, first, frame_append complete]
  cases framed : frame stream with
  | message message rest => rfl
  | malformed malformation rest => rfl
  | tooLarge => rfl
  | incomplete => exact absurd framed complete

end Stream

namespace Connection

/-! ## What a connection yields -/

variable {connection : Connection}

/-- A connection that has read an item yields it, and reads nothing. -/
theorem next_of_complete (complete : frame connection.buffer ≠ .incomplete) :
    connection.next =
      ((Stream.first connection.buffer).1,
        { connection with buffer := (Stream.first connection.buffer).2 }) := by
  rw [next, Stream.first]
  cases framed : frame connection.buffer with
  | message message rest => rfl
  | malformed malformation rest => rfl
  | tooLarge => rfl
  | incomplete => exact absurd framed complete

/-- A connection to which nothing comes any more yields the end. -/
theorem next_of_nil (framed : frame connection.buffer = .incomplete) (inbox : connection.inbox = []) :
    connection.next = ((Stream.first connection.buffer).1, connection) := by
  rw [next, Stream.first, framed]
  dsimp only
  split
  · rfl
  · rename_i come
    rw [inbox] at come
    cases come

theorem next_of_cons (framed : frame connection.buffer = .incomplete) {arrival : Arrival}
    {rest : List Arrival} (inbox : connection.inbox = arrival :: rest) :
    connection.next = (connection.read arrival rest).next := by
  rw [next, framed]
  dsimp only
  split <;> rename_i come <;> rw [inbox] at come <;> cases come
  rfl

/-- A connection to which data alone comes, `stream` being what it has read and what it will read. -/
def Brings (connection : Connection) (stream : Bytes) : Prop :=
  ∃ chunks : List Bytes,
    connection.inbox = chunks.map .data ∧ stream = connection.buffer ++ chunks.flatten

/-- An item that has been read leaves what comes behind it as it is. -/
theorem next_brings_of_complete (complete : frame connection.buffer ≠ .incomplete) {chunks : List Bytes}
    (arriving : connection.inbox = chunks.map .data) :
    connection.next.1 = (Stream.first (connection.buffer ++ chunks.flatten)).1 ∧
      connection.next.2.Brings (Stream.first (connection.buffer ++ chunks.flatten)).2 ∧
      ∃ buffer inbox, connection.next.2 = { connection with buffer, inbox } := by
  rw [next_of_complete complete, Stream.first_append complete]
  exact ⟨rfl, ⟨chunks, arriving, rfl⟩, (Stream.first connection.buffer).2, connection.inbox, rfl⟩

/-- The next item of a connection is the first item of the stream that it brings, and behind both of them
the rest is the same. -/
theorem next_brings {stream : Bytes} (brings : connection.Brings stream) :
    connection.next.1 = (Stream.first stream).1 ∧
      connection.next.2.Brings (Stream.first stream).2 ∧
      ∃ buffer inbox, connection.next.2 = { connection with buffer, inbox } := by
  obtain ⟨chunks, arriving, rfl⟩ := brings
  -- one chunk is read at a time, until there is an item or nothing comes any more
  induction chunks generalizing connection with
  | nil =>
      by_cases framed : frame connection.buffer = .incomplete
      · have behind : (Stream.first connection.buffer).2 = connection.buffer := by
          rw [Stream.first, framed]
        rw [List.flatten_nil, List.append_nil, next_of_nil framed arriving, behind]
        exact ⟨rfl, ⟨[], arriving, (List.append_nil _).symm⟩, connection.buffer, connection.inbox, rfl⟩
      · exact next_brings_of_complete framed arriving
  | cons chunk chunks ih =>
      by_cases framed : frame connection.buffer = .incomplete
      · have read := @ih (connection.read (.data chunk) (chunks.map .data)) rfl
        rw [next_of_cons framed arriving, List.flatten_cons, ← List.append_assoc]
        exact read
      · exact next_brings_of_complete framed arriving

theorem fresh_brings (remote : Net.Endpoint) (upgrader : Tls.Upgrader) (tree : Os.Files)
    (chunks : List Bytes) : (fresh remote upgrader tree (chunks.map .data)).Brings chunks.flatten :=
  ⟨chunks, rfl, rfl⟩

end Connection

end LdapDecoy.Server
