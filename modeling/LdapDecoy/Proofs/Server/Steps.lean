import LdapDecoy.Proofs.Server.Turns
import Mathlib.Logic.Function.Iterate

/-!
# Sessions step by step

A session as a task that can be left between any two of its steps: a message is read, a reply is written,
storage is called, or the connection is asked for something. A task that is not disturbed comes to its end, and
has then done what the session does in one go.
-/
namespace LdapDecoy.Server
open Ldap Responder

/-- Where a session stands between two steps. -/
inductive Phase where
  | greeting
  /-- Between two messages. -/
  | reading
  /-- With a message in flight, and with what there is left to do about it. -/
  | handling (id : MessageId) (rest : Dialogue)
  /-- Before a diagnostic about the client, behind which the session goes on or ends. -/
  | noting (before after : String) (goesOn : Bool)
  | dismissing
  | finished

namespace Phase

/-- Where a session stands behind a turn. -/
def next (goesOn : Bool) : Phase := if goesOn then .reading else .dismissing

/-- Where a session stands behind a message. -/
def behind : Except SessionFault Flow → Phase
  | .ok flow => .next (flow = .proceed)
  | .error fault => .noting "Unable to write to LDAP client " (": " ++ fault.message) false

instance : (phase : Phase) → Decidable (phase = .finished)
  | .finished => .isTrue rfl
  | .greeting | .reading | .handling _ _ | .noting _ _ _ | .dismissing => .isFalse nofun

end Phase

/-- A session that is under way. -/
structure Task where
  phase : Phase
  connection : Connection
  /-- What it has done so far. -/
  acts : List Act

namespace Task

def start (connection : Connection) : Task := ⟨.greeting, connection, []⟩

variable {τ : Type} [Storage τ]

/-- Reads the next item of the connection. -/
def read (responder : Responder) (task : Task) : Task :=
  match task.connection.next with
  | (.ended, rest) => ⟨.dismissing, rest, task.acts⟩
  | (.unreadable fault, rest) =>
    ⟨.noting "LDAP client " (" sent unreadable data: " ++ fault.message) false, rest, task.acts⟩
  | (.malformed malformation, rest) =>
    let fault := SessionFault.malformed malformation.message
    ⟨.noting "LDAP client " (" sent an invalid message: " ++ fault.message) true, rest, task.acts⟩
  | (.message message, rest) =>
    ⟨.handling message.id (.plan responder.domain message), rest.begin message.id, task.acts⟩

/-- Takes the first step of a dialogue. -/
def proceed (responder : Responder) (task : Task) (id : MessageId) (rest : Dialogue) (storage : τ) :
    Task × τ :=
  match rest with
  | .done flow => (⟨.behind (.ok flow), task.connection.finish id, task.acts⟩, storage)
  | .log event next => (⟨.handling id next, task.connection, task.acts ++ [.logged event]⟩, storage)
  | .reply reply next =>
    match Client.write reply task.connection with
    | (.error fault, connection) => (⟨.behind (.error fault), connection.finish id, task.acts⟩, storage)
    | (.ok (), connection) => (⟨.handling id next, connection, task.acts ++ [.replied reply]⟩, storage)
  | .ifAbandoned asked yes no =>
    let next := if Client.isAbandoned asked task.connection then yes else no
    (⟨.handling id next, task.connection, task.acts⟩, storage)
  | .abandon target found missing =>
    let (inFlight, connection) := Client.abandon target task.connection
    (⟨.handling id (if inFlight then found else missing), connection, task.acts⟩, storage)
  | .startTls next =>
    let (upgraded, events, connection) := Client.startTls task.connection
    (⟨.handling id (next upgraded), connection, task.acts ++ events.map .logged⟩, storage)
  | .record subject transcript next =>
    let (acts, storage) :=
      responder.recorder.record subject transcript task.connection.remote.text storage
    (⟨.handling id next, task.connection, task.acts ++ acts⟩, storage)

/-- Records a diagnostic about the client. -/
def note (responder : Responder) (task : Task) (before after : String) (next : Phase) (storage : τ) :
    Task × τ :=
  let (acts, storage) := Server.note responder before task.connection after storage
  (⟨next, task.connection, task.acts ++ acts⟩, storage)

/-- The next step of a task. -/
def step (responder : Responder) : Task × τ → Task × τ
  | (task, storage) =>
    match task.phase with
    | .greeting => task.note responder "LDAP client " " connected" .reading storage
    | .reading => (task.read responder, storage)
    | .handling id rest => task.proceed responder id rest storage
    | .noting before after goesOn => task.note responder before after (.next goesOn) storage
    | .dismissing => task.note responder "LDAP client " " disconnected" .finished storage
    | .finished => (task, storage)

/-- Whether some steps of a task that is not disturbed lead from one state to another. -/
def Leads (responder : Responder) (first last : Task × τ) : Prop :=
  ∃ steps, (step responder)^[steps] first = last

namespace Leads

variable {responder : Responder} {first middle last : Task × τ}

theorem refl (responder : Responder) (first : Task × τ) : Leads responder first first := ⟨0, rfl⟩

theorem one (responder : Responder) (first : Task × τ) : Leads responder first (step responder first) :=
  ⟨1, rfl⟩

theorem trans (front : Leads responder first middle) (back : Leads responder middle last) :
    Leads responder first last := by
  obtain ⟨few, rfl⟩ := front
  obtain ⟨more, rfl⟩ := back
  exact ⟨more + few, Function.iterate_add_apply _ _ _ _⟩

/-- The first step, and then the rest. -/
theorem cons (back : Leads responder (step responder first) last) : Leads responder first last :=
  (one responder first).trans back

end Leads

/-! ## A message -/

section
variable (responder : Responder) (task : Task) (id : MessageId) (storage : τ)

theorem proceed_reply_ok {reply : Reply} {behind : Connection}
    (written : Client.write reply task.connection = (.ok (), behind)) (next : Dialogue) :
    task.proceed responder id (.reply reply next) storage =
      (⟨.handling id next, behind, task.acts ++ [.replied reply]⟩, storage) := by
  rw [proceed, written]

theorem proceed_reply_error {reply : Reply} {behind : Connection} {fault : SessionFault}
    (failed : Client.write reply task.connection = (.error fault, behind)) (next : Dialogue) :
    task.proceed responder id (.reply reply next) storage =
      (⟨.behind (.error fault), behind.finish id, task.acts⟩, storage) := by
  rw [proceed, failed]

end

/-- A task behind a message that has been handled. -/
def handled (id : MessageId) (acts : List Act) (outcome : Outcome Connection τ) : Task × τ :=
  (⟨.behind outcome.result, outcome.client.finish id, acts ++ outcome.acts⟩, outcome.storage)

omit [Storage τ] in
theorem handled_nil (id : MessageId) (acts : List Act) (result : Except SessionFault Flow)
    (client : Connection) (storage : τ) :
    handled id acts ⟨result, client, storage, []⟩ = (⟨.behind result, client.finish id, acts⟩, storage) := by
  rw [handled, List.append_nil]

omit [Storage τ] in
theorem handled_after (id : MessageId) (acts more : List Act) (outcome : Outcome Connection τ) :
    handled id acts (outcome.after more) = handled id (acts ++ more) outcome := by
  rw [handled, handled, Outcome.after_acts, List.append_assoc]
  rfl

/-- Step by step, a dialogue comes to what it comes to in one go. -/
theorem leads_handled (responder : Responder) (id : MessageId) (rest : Dialogue) (connection : Connection)
    (acts : List Act) (storage : τ) :
    Leads responder (⟨.handling id rest, connection, acts⟩, storage)
      (handled id acts (rest.run responder.recorder connection storage)) := by
  induction rest generalizing connection acts storage with
  | done flow =>
      rw [Dialogue.run, handled_nil]
      exact .one responder _
  | log event next ih =>
      rw [Dialogue.run_log, handled_after]
      exact (ih connection _ storage).cons
  | reply r next ih =>
      rcases written : Client.write r connection with ⟨fault | _, behind⟩
      · rw [Dialogue.run_reply_error responder.recorder storage written, handled_nil,
          ← proceed_reply_error responder ⟨.handling id (.reply r next), connection, acts⟩ id storage written]
        exact .one responder _
      · have rest := ih behind (acts ++ [.replied r]) storage
        rw [Dialogue.run_reply_ok responder.recorder storage written, handled_after]
        rw [← proceed_reply_ok responder ⟨.handling id (.reply r next), connection, acts⟩ id storage written]
          at rest
        exact rest.cons
  | ifAbandoned asked yes no ihYes ihNo =>
      rw [Dialogue.run_ifAbandoned]
      apply Leads.cons
      change Leads responder
        (⟨.handling id (if Client.isAbandoned asked connection then yes else no), connection, acts⟩, storage) _
      split
      · exact ihYes connection acts storage
      · exact ihNo connection acts storage
  | abandon target found missing ihFound ihMissing =>
      rw [Dialogue.run_abandon]
      apply Leads.cons
      change Leads responder
        (⟨.handling id (if (Client.abandon target connection).1 then found else missing),
          (Client.abandon target connection).2, acts⟩, storage) _
      split
      · exact ihFound _ acts storage
      · exact ihMissing _ acts storage
  | startTls next ih =>
      rw [Dialogue.run_startTls, handled_after]
      exact (ih _ _ _ storage).cons
  | record subject transcript next ih =>
      rw [Dialogue.run_record, handled_after]
      exact (ih connection _ _).cons

/-! ## Turns and sessions -/

/-- A task behind a turn that has been taken, or a session that has been served. -/
def served (phase : Phase) (acts : List Act) (served : Served τ) : Task × τ :=
  (⟨phase, served.connection, acts ++ served.acts⟩, served.storage)

omit [Storage τ] in
theorem served_after (phase : Phase) (acts : List Act) (behind : Served τ) (more : List Act) :
    served phase acts (behind.after more) = served phase (acts ++ more) behind := by
  simp only [served, Served.after, List.append_assoc]

/-- Step by step, a turn comes to what it comes to in one go. -/
theorem leads_turn (responder : Responder) (connection : Connection) (acts : List Act) (storage : τ) :
    let turned := connection.advance responder storage
    Leads responder (⟨.reading, connection, acts⟩, storage) (served (.next turned.2) acts turned.1) := by
  apply Leads.cons
  change Leads responder (Task.read responder ⟨.reading, connection, acts⟩, storage) _
  rcases come : connection.next with ⟨item, rest⟩
  rw [Connection.advance, read, come]
  cases item with
  | ended =>
      change Leads responder _ (⟨.dismissing, rest, acts ++ []⟩, storage)
      rw [List.append_nil]
      exact .refl responder _
  | unreadable fault => exact .one responder _
  | malformed malformation => exact .one responder _
  | message message =>
      have handled := leads_handled responder message.id (.plan responder.domain message)
        (rest.begin message.id) acts storage
      change Leads responder _ (⟨.behind (rest.handle responder message storage).result, _, _⟩, _) at handled
      cases result : (rest.handle responder message storage).result with
      | ok flow =>
          rw [result] at handled
          rw [Connection.turn_of_ok result]
          exact handled
      | error fault =>
          rw [result] at handled
          rw [Connection.turn_of_error result]
          have noted := Leads.one responder (⟨.behind (.error fault),
            (rest.handle responder message storage).client,
            acts ++ (rest.handle responder message storage).acts⟩,
            (rest.handle responder message storage).storage)
          rw [served, ← List.append_assoc]
          exact handled.trans noted

/-- Step by step, the turns of a session come to what they come to in one go. -/
theorem leads_served {responder : Responder} {turns : Nat} {connection : Connection} {storage : τ}
    {behind : Served τ} (takes : Connection.Takes responder turns connection storage behind) (acts : List Act) :
    Leads responder (⟨.reading, connection, acts⟩, storage) (served .dismissing acts behind) := by
  induction takes generalizing acts with
  | @last connection storage turned stops =>
      have turn := leads_turn responder connection acts storage
      rw [stops] at turn
      exact turn
  | @more turns connection storage turned behind goesOn rest ih =>
      have turn := leads_turn responder connection acts storage
      rw [goesOn] at turn
      rw [served_after]
      exact turn.trans (ih _)

/-- Step by step, a session comes to what it comes to in one go. -/
theorem leads_session (responder : Responder) (connection : Connection) (storage : τ) :
    Leads responder (start connection, storage)
      (served .finished [] (connection.session responder storage)) := by
  apply Leads.cons
  obtain ⟨turns, _, takes⟩ := Connection.exists_takes responder connection
    (connection.greet responder storage).2
  have served := leads_served takes (connection.greet responder storage).1
  exact served.trans (.one responder _)

/-- A session that is over stays as it is. -/
theorem iterate_finished (responder : Responder) (connection : Connection) (acts : List Act) (storage : τ)
    (steps : Nat) :
    (step responder)^[steps] (⟨.finished, connection, acts⟩, storage) =
      (⟨.finished, connection, acts⟩, storage) :=
  Function.iterate_fixed rfl steps

/-- Behind enough steps of its own, a session that is not disturbed is over. -/
theorem exists_enough (responder : Responder) (connection : Connection) (storage : τ) :
    ∃ enough, ∀ steps, enough ≤ steps → (step responder)^[steps] (start connection, storage) =
      served .finished [] (connection.session responder storage) := by
  obtain ⟨enough, finished⟩ := leads_session responder connection storage
  refine ⟨enough, fun steps least => ?_⟩
  obtain ⟨more, rfl⟩ := Nat.exists_eq_add_of_le' least
  rw [Function.iterate_add_apply, finished]
  exact iterate_finished responder _ _ _ more

end Task

end LdapDecoy.Server
