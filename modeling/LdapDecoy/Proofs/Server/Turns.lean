import LdapDecoy.Proofs.Responder.Run
import LdapDecoy.Server.Session

/-!
# Turns of a session

A session takes one turn for each item, and goes on until a turn says not to. Every session ends, for each
turn that goes on leaves less to read; and it calls storage with its offers and with nothing else.
-/
namespace LdapDecoy.Server
open Ldap Responder

/-- The same served over two stores: `other` differs in what is stored, and in what is logged about
storage. -/
structure Served.Matches {τ τ' : Type} (served : Served τ) (other : Served τ') : Prop where
  connection : other.connection = served.connection
  replies : Act.replies other.acts = Act.replies served.acts
  offers : Act.offers other.acts = Act.offers served.acts

/-- The same may stand behind what matches. -/
theorem Served.Matches.append {τ τ' : Type} {served behind : Served τ} {other behind' : Served τ'}
    (first : served.Matches other) (last : behind.Matches behind') :
    (behind.after served.acts).Matches (behind'.after other.acts) := by
  refine ⟨last.connection, ?_, ?_⟩
  · change Act.replies (other.acts ++ behind'.acts) = Act.replies (served.acts ++ behind.acts)
    rw [Act.replies_append, Act.replies_append, first.replies, last.replies]
  · change Act.offers (other.acts ++ behind'.acts) = Act.offers (served.acts ++ behind.acts)
    rw [Act.offers_append, Act.offers_append, first.offers, last.offers]

namespace Connection

variable {τ : Type} [Storage τ]
variable (responder : Responder)

/-- One turn: the next item, what comes of it, and whether the session goes on. -/
def advance (connection : Connection) (storage : τ) : Served τ × Bool :=
  connection.next.2.turn responder connection.next.1 storage

/-- A session of so many turns, of which the last does not go on. -/
inductive Takes : Nat → Connection → τ → Served τ → Prop where
  | last {connection : Connection} {storage : τ} {served : Served τ}
      (stops : connection.advance responder storage = (served, false)) :
      Takes 1 connection storage served
  | more {turns : Nat} {connection : Connection} {storage : τ} {served behind : Served τ}
      (goesOn : connection.advance responder storage = (served, true))
      (rest : Takes turns served.connection served.storage behind) :
      Takes (turns + 1) connection storage (behind.after served.acts)

variable {responder} {connection : Connection} {storage : τ}

theorem serve_last {served : Served τ} (stops : connection.advance responder storage = (served, false)) :
    serve responder connection storage = served := by
  rw [advance] at stops
  rw [serve]
  split
  rename_i item rest come
  rw [come] at stops
  split <;> rename_i turned <;> rw [stops] at turned <;> cases turned
  rfl

theorem serve_more {served : Served τ} (goesOn : connection.advance responder storage = (served, true)) :
    serve responder connection storage =
      (serve responder served.connection served.storage).after served.acts := by
  rw [advance] at goesOn
  rw [serve]
  split
  rename_i item rest come
  rw [come] at goesOn
  split <;> rename_i turned <;> rw [goesOn] at turned <;> cases turned
  rfl

/-- The turns of a session lead to what it serves. -/
theorem Takes.serve_eq {turns : Nat} {served : Served τ}
    (takes : Takes responder turns connection storage served) :
    serve responder connection storage = served := by
  induction takes with
  | last stops => exact serve_last stops
  | more goesOn rest ih => rw [serve_more goesOn, ih]

/-- A turn that goes on leaves less to read. -/
theorem advance_weight {served : Served τ}
    (goesOn : connection.advance responder storage = (served, true)) :
    served.connection.weight < connection.weight := by
  have consumed := isConsumed_of_turn (congrArg Prod.snd goesOn)
  have kept := turn_le responder connection.next.1 connection.next.2 storage
  rw [advance] at goesOn
  rw [goesOn] at kept
  exact Nat.lt_of_le_of_lt kept (next_weight connection consumed)

/-- Every session ends, and there is at least one octet to read for each turn before the last. -/
theorem exists_takes (responder : Responder) (connection : Connection) (storage : τ) :
    ∃ turns, turns ≤ connection.weight + 1 ∧
      Takes responder turns connection storage (serve responder connection storage) := by
  induction weight : connection.weight using Nat.strongRecOn generalizing connection storage with
  | ind n ih =>
      rcases turn : connection.advance responder storage with ⟨served, _ | _⟩
      · rw [serve_last turn]
        exact ⟨1, Nat.le_add_left 1 n, .last turn⟩
      · have shorter := advance_weight turn
        rw [weight] at shorter
        obtain ⟨turns, bound, rest⟩ := ih _ shorter served.connection served.storage rfl
        rw [serve_more turn]
        exact ⟨turns + 1, by omega, .more turn rest⟩

/-! ## Message boundaries -/

/-- A later message boundary of a session: every turn up to it has gone on. -/
inductive Reaches (responder : Responder) (connection : Connection) (storage : τ) :
    Connection → τ → Prop where
  | here : Reaches responder connection storage connection storage
  | onward {boundary : Connection} {stored : τ} {served : Served τ}
      (front : Reaches responder connection storage boundary stored)
      (goesOn : boundary.advance responder stored = (served, true)) :
      Reaches responder connection storage served.connection served.storage

/-- What every turn keeps, a session keeps at every message boundary. -/
theorem Reaches.keeps {responder : Responder} {invariant : Connection → Prop}
    (turn : ∀ (connection : Connection) (storage : τ), invariant connection →
      invariant (connection.advance responder storage).1.connection)
    {connection boundary : Connection} {storage stored : τ}
    (reaches : Reaches responder connection storage boundary stored) (holds : invariant connection) :
    invariant boundary := by
  induction reaches with
  | here => exact holds
  | @onward boundary stored served front goesOn ih =>
      have kept := turn boundary stored ih
      rw [goesOn] at kept
      exact kept

/-! ## Diagnostics -/

theorem note_offers (responder : Responder) (before : String) (connection : Connection) (after : String)
    (storage : τ) :
    Act.offers (note responder before connection after storage).1 =
      [responder.recorder.internal (before ++ connection.remote.text ++ after)] :=
  responder.recorder.offers_log .print _ storage

theorem note_replies (responder : Responder) (before : String) (connection : Connection) (after : String)
    (storage : τ) : Act.replies (note responder before connection after storage).1 = [] :=
  responder.recorder.replies_log .print _ storage

theorem note_storage (responder : Responder) (before : String) (connection : Connection) (after : String)
    (storage : τ) :
    (note responder before connection after storage).2 =
      Storage.addAll (Act.offers (note responder before connection after storage).1) storage :=
  responder.recorder.storage_record none (before ++ connection.remote.text ++ after) "" storage

/-! ## Turns with a message -/

theorem turn_of_ok {message : Message} {flow : Flow}
    (succeeds : (connection.handle responder message storage).result = .ok flow) :
    let outcome := connection.handle responder message storage
    connection.turn responder (.message message) storage =
      (Served.mk outcome.client outcome.storage outcome.acts, decide (flow = .proceed)) := by
  simp only [turn, succeeds]

/-- A reply that cannot be written is recorded last. -/
theorem turn_of_error {message : Message} {fault : SessionFault}
    (fails : (connection.handle responder message storage).result = .error fault) :
    let outcome := connection.handle responder message storage
    let noted := note responder "Unable to write to LDAP client " outcome.client (": " ++ fault.message)
      outcome.storage
    connection.turn responder (.message message) storage =
      (Served.mk outcome.client noted.2 (outcome.acts ++ noted.1), false) := by
  simp only [turn, fails]

/-! ## Over another store -/

variable {τ' : Type} [Storage τ']

theorem note_elsewhere (responder : Responder) (before : String) (connection : Connection)
    (after : String) (storage : τ) (elsewhere : τ') :
    Served.Matches ⟨connection, (note responder before connection after storage).2,
        (note responder before connection after storage).1⟩
      ⟨connection, (note responder before connection after elsewhere).2,
        (note responder before connection after elsewhere).1⟩ := by
  refine ⟨rfl, ?_, ?_⟩
  · rw [note_replies, note_replies]
  · rw [note_offers, note_offers]

theorem handle_elsewhere (responder : Responder) (message : Message) (connection : Connection)
    (storage : τ) (elsewhere : τ') :
    (connection.handle responder message storage).Matches
      (connection.handle responder message elsewhere) := by
  have same := Dialogue.run_elsewhere responder.recorder (connection.begin message.id) storage elsewhere
    (Dialogue.plan responder.domain message)
  exact ⟨same.result, congrArg (fun client => client.finish message.id) same.client, same.replies,
    same.offers⟩

/-- A turn goes on over every store or over none, and serves the same over all of them. -/
theorem turn_elsewhere (responder : Responder) (item : Item) (connection : Connection) (storage : τ)
    (elsewhere : τ') :
    (connection.turn responder item elsewhere).2 = (connection.turn responder item storage).2 ∧
      (connection.turn responder item storage).1.Matches (connection.turn responder item elsewhere).1 := by
  cases item with
  | ended => exact ⟨rfl, rfl, rfl, rfl⟩
  | unreadable _ | malformed _ => exact ⟨rfl, note_elsewhere responder _ connection _ storage elsewhere⟩
  | message message =>
      have same := handle_elsewhere responder message connection storage elsewhere
      have outcome : Served.Matches
          ⟨(connection.handle responder message storage).client, storage,
            (connection.handle responder message storage).acts⟩
          ⟨(connection.handle responder message elsewhere).client, elsewhere,
            (connection.handle responder message elsewhere).acts⟩ := ⟨same.client, same.replies, same.offers⟩
      rcases result : (connection.handle responder message storage).result with fault | flow
      · have noted := note_elsewhere responder "Unable to write to LDAP client "
          (connection.handle responder message storage).client (": " ++ fault.message)
          (connection.handle responder message storage).storage
          (connection.handle responder message elsewhere).storage
        rw [turn_of_error result, turn_of_error (same.result.trans result), same.client]
        exact ⟨rfl, outcome.append noted⟩
      · rw [turn_of_ok result, turn_of_ok (same.result.trans result)]
        exact ⟨rfl, same.client, same.replies, same.offers⟩

theorem advance_elsewhere (responder : Responder) (connection : Connection) (storage : τ)
    (elsewhere : τ') :
    (connection.advance responder elsewhere).2 = (connection.advance responder storage).2 ∧
      (connection.advance responder storage).1.Matches (connection.advance responder elsewhere).1 :=
  turn_elsewhere responder connection.next.1 connection.next.2 storage elsewhere

/-- Over every store or over none a session takes the same turns. -/
theorem Takes.elsewhere {turns : Nat} {served : Served τ}
    (takes : Takes responder turns connection storage served) (elsewhere : τ') :
    ∃ other, Takes responder turns connection elsewhere other ∧ served.Matches other := by
  induction takes generalizing elsewhere with
  | @last connection storage served stops =>
      obtain ⟨alsoStops, alike⟩ := advance_elsewhere responder connection storage elsewhere
      rw [stops] at alsoStops alike
      exact ⟨_, .last (Prod.ext rfl alsoStops), alike⟩
  | @more turns connection storage served behind goesOn rest ih =>
      obtain ⟨alsoGoesOn, alike⟩ := advance_elsewhere responder connection storage elsewhere
      rw [goesOn] at alsoGoesOn alike
      obtain ⟨other, takes, same⟩ := ih (connection.advance responder elsewhere).1.storage
      rw [← alike.connection] at takes
      exact ⟨_, .more (Prod.ext rfl alsoGoesOn) takes, alike.append same⟩

theorem session_elsewhere (responder : Responder) (connection : Connection) (storage : τ) (elsewhere : τ') :
    (connection.session responder storage).Matches (connection.session responder elsewhere) := by
  have greeted := note_elsewhere responder "LDAP client " connection " connected" storage elsewhere
  obtain ⟨_, _, takes⟩ := exists_takes responder connection (connection.greet responder storage).2
  obtain ⟨other, takes', served⟩ := takes.elsewhere (connection.greet responder elsewhere).2
  rw [← takes'.serve_eq] at served
  let first := serve responder connection (connection.greet responder storage).2
  let second := serve responder connection (connection.greet responder elsewhere).2
  have dismissed := note_elsewhere responder "LDAP client " first.connection " disconnected" first.storage
    second.storage
  have all := (greeted.append served).append dismissed
  rw [session, session]
  dsimp only
  refine ⟨served.connection, ?_, ?_⟩
  · exact served.connection ▸ all.replies
  · exact served.connection ▸ all.offers

/-! ## Storage behind a session -/

theorem handle_storage (responder : Responder) (message : Message) (connection : Connection)
    (storage : τ) :
    (connection.handle responder message storage).storage =
      Storage.addAll (Act.offers (connection.handle responder message storage).acts) storage :=
  Dialogue.run_storage responder.recorder (connection.begin message.id) storage
    (Dialogue.plan responder.domain message)

theorem turn_storage (responder : Responder) (item : Item) (connection : Connection) (storage : τ) :
    (connection.turn responder item storage).1.storage =
      Storage.addAll (Act.offers (connection.turn responder item storage).1.acts) storage := by
  cases item with
  | ended => rfl
  | unreadable fault => exact note_storage responder _ connection _ storage
  | malformed malformation => exact note_storage responder _ connection _ storage
  | message message =>
      have handled := handle_storage responder message connection storage
      cases result : (connection.handle responder message storage).result with
      | ok flow =>
          rw [turn_of_ok result]
          exact handled
      | error fault =>
          rw [turn_of_error result, Act.offers_append, Storage.addAll_append, ← handled]
          exact note_storage responder _ _ _ _

theorem Takes.storage_eq {turns : Nat} {served : Served τ}
    (takes : Takes responder turns connection storage served) :
    served.storage = Storage.addAll (Act.offers served.acts) storage := by
  induction takes with
  | @last connection storage served stops =>
      have turned := turn_storage responder connection.next.1 connection.next.2 storage
      rw [advance] at stops
      rw [stops] at turned
      exact turned
  | @more turns connection storage served behind goesOn rest ih =>
      have turned := turn_storage responder connection.next.1 connection.next.2 storage
      rw [advance] at goesOn
      rw [goesOn] at turned
      change behind.storage = Storage.addAll (Act.offers (served.acts ++ behind.acts)) storage
      rw [Act.offers_append, Storage.addAll_append, ← turned]
      exact ih

/-- What a session leaves in storage is what its offers leave there. -/
theorem session_storage (responder : Responder) (connection : Connection) (storage : τ) :
    (connection.session responder storage).storage =
      Storage.addAll (Act.offers (connection.session responder storage).acts) storage := by
  rw [session]
  cases greeted : connection.greet responder storage with
  | mk connected storage' =>
      have first := note_storage responder "LDAP client " connection " connected" storage
      rw [greet] at greeted
      rw [greeted] at first
      obtain ⟨_, _, takes⟩ := exists_takes responder connection storage'
      have middle := takes.storage_eq
      rw [Act.offers_append, Act.offers_append, Storage.addAll_append, Storage.addAll_append, ← first,
        ← middle]
      exact note_storage responder "LDAP client " _ " disconnected" _

end Connection

end LdapDecoy.Server
