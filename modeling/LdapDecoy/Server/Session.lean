import LdapDecoy.Server.Connection

/-!
# Sessions

A client from its connection to its end. Messages are handled one at a time and in order, each of them in
flight while it is handled. A malformed message is recorded and passed over; unreadable data, a request to
unbind and a reply that cannot be written end the session.
-/
namespace LdapDecoy.Server
open Ldap

/-- What a session leaves behind. -/
structure Served (τ : Type) where
  connection : Connection
  storage : τ
  /-- What was done, in order. -/
  acts : List Act

/-- What was served, with some acts in front. -/
def Served.after {τ : Type} (served : Served τ) (acts : List Act) : Served τ :=
  { served with acts := acts ++ served.acts }

variable {τ : Type} [Storage τ]

/-- A diagnostic about a client. -/
def note (responder : Responder) (before : String) (connection : Connection) (after : String)
    (storage : τ) : List Act × τ :=
  responder.recorder.log .print (before ++ connection.remote.text ++ after) storage

namespace Connection

/-- The connection with a request in flight. -/
def begin (connection : Connection) (id : MessageId) : Connection :=
  { connection with inFlight := connection.inFlight.begin id }

/-- The connection with a request no longer in flight. -/
def finish (connection : Connection) (id : MessageId) : Connection :=
  { connection with inFlight := connection.inFlight.finish id }

/-- Handles a message while it is in flight. -/
def handle (responder : Responder) (message : Message) (connection : Connection) (storage : τ) :
    Responder.Outcome Connection τ :=
  let outcome := responder.handle message (connection.begin message.id) storage
  { outcome with client := outcome.client.finish message.id }

theorem handle_le (responder : Responder) (message : Message) (connection : Connection) (storage : τ) :
    (connection.handle responder message storage).client.weight ≤ connection.weight :=
  handle_weight responder message (connection.begin message.id) storage

/-- What comes of an item, and whether the session goes on behind it. -/
def turn (responder : Responder) (item : Item) (connection : Connection) (storage : τ) : Served τ × Bool :=
  match item with
  | .ended => (⟨connection, storage, []⟩, false)
  | .unreadable fault =>
    let (acts, storage) :=
      note responder "LDAP client " connection (" sent unreadable data: " ++ fault.message) storage
    (⟨connection, storage, acts⟩, false)
  | .malformed malformation =>
    let fault := SessionFault.malformed malformation.message
    let (acts, storage) :=
      note responder "LDAP client " connection (" sent an invalid message: " ++ fault.message) storage
    (⟨connection, storage, acts⟩, true)
  | .message message =>
    let outcome := connection.handle responder message storage
    match outcome.result with
    | .ok flow => (⟨outcome.client, outcome.storage, outcome.acts⟩, flow = .proceed)
    | .error fault =>
      let (acts, storage) :=
        note responder "Unable to write to LDAP client " outcome.client (": " ++ fault.message)
          outcome.storage
      (⟨outcome.client, storage, outcome.acts ++ acts⟩, false)

theorem turn_le (responder : Responder) (item : Item) (connection : Connection) (storage : τ) :
    (connection.turn responder item storage).1.connection.weight ≤ connection.weight := by
  cases item with
  | ended => exact Nat.le_refl _
  | unreadable fault => exact Nat.le_refl _
  | malformed malformation => exact Nat.le_refl _
  | message message =>
    have handled := handle_le responder message connection storage
    simp only [turn]
    split <;> exact handled

/-- A session goes on only behind an item that has been consumed. -/
theorem isConsumed_of_turn {responder : Responder} {item : Item} {connection : Connection} {storage : τ}
    (goesOn : (connection.turn responder item storage).2 = true) : item.isConsumed = true := by
  cases item with
  | ended => exact absurd goesOn Bool.false_ne_true
  | unreadable fault => exact absurd goesOn Bool.false_ne_true
  | malformed malformation => rfl
  | message message => rfl

/-- Serves a client until the session ends. -/
def serve (responder : Responder) (connection : Connection) (storage : τ) : Served τ :=
  match _come : connection.next with
  | (item, rest) =>
    match _goesOn : rest.turn responder item storage with
    | (served, false) => served
    | (served, true) => (serve responder served.connection served.storage).after served.acts
termination_by connection.weight
decreasing_by
  have consumed := isConsumed_of_turn (congrArg Prod.snd _goesOn)
  have kept := turn_le responder item rest storage
  rw [_goesOn] at kept
  have shorter := next_weight connection
  rw [_come] at shorter
  exact Nat.lt_of_le_of_lt kept (shorter consumed)

/-- What is recorded when a session begins. -/
def greet (responder : Responder) (connection : Connection) (storage : τ) : List Act × τ :=
  note responder "LDAP client " connection " connected" storage

/-- What is recorded when a session has ended. -/
def dismiss (responder : Responder) (connection : Connection) (storage : τ) : List Act × τ :=
  note responder "LDAP client " connection " disconnected" storage

/-- A whole session. -/
def session (responder : Responder) (connection : Connection) (storage : τ) : Served τ :=
  let (connected, storage) := connection.greet responder storage
  let served := serve responder connection storage
  let (disconnected, storage) := served.connection.dismiss responder served.storage
  ⟨served.connection, storage, connected ++ served.acts ++ disconnected⟩

end Connection

end LdapDecoy.Server
