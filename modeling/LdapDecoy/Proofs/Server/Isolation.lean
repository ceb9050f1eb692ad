import LdapDecoy.Proofs.Interleaving
import LdapDecoy.Proofs.Server.Steps
import LdapDecoy.Proofs.Storage.Memory
import Mathlib.Data.List.Induction

/-!
# Sessions that share a memory

Any number of sessions with one responder and one memory. A schedule says whose step is next, and whatever it
says, each session does what it does with a responder and a memory of its own, and what the memory holds under
a key is an interleaving of what the sessions would have left there.
-/
namespace LdapDecoy.Server
open Ldap Responder
open Storage (Memory)

/-! ## Steps over memory -/

namespace Task

/-- That the next step of a task does `more` and leads to `behind`, whatever memory holds, and adds to memory
what it offers. It writes one reply at most, or makes one offer. -/
structure Does (responder : Responder) (task behind : Task) (more : List Act) : Prop where
  acts : behind.acts = task.acts ++ more
  grain : (Act.replies more).length + (Act.offers more).length ≤ 1
  step : ∀ memory : Memory, step responder (task, memory) = (behind, Storage.addAll (Act.offers more) memory)

section
variable {responder : Responder} {task behind : Task}

theorem does_nothing (step : ∀ memory : Memory, step responder (task, memory) = (behind, memory))
    (acts : behind.acts = task.acts) : Does responder task behind [] :=
  ⟨acts.trans (List.append_nil _).symm, Nat.zero_le 1, step⟩

theorem does_reply {reply : Reply}
    (step : ∀ memory : Memory, step responder (task, memory) = (behind, memory))
    (acts : behind.acts = task.acts ++ [.replied reply]) : Does responder task behind [.replied reply] :=
  ⟨acts, Nat.le_refl 1, step⟩

theorem does_log (events : List Event)
    (step : ∀ memory : Memory, step responder (task, memory) = (behind, memory))
    (acts : behind.acts = task.acts ++ events.map .logged) : Does responder task behind (events.map .logged) := by
  refine ⟨acts, ?_, ?_⟩
  · rw [Act.replies_map_logged, Act.offers_map_logged]
    exact Nat.zero_le 1
  · rw [Act.offers_map_logged]
    exact step

theorem does_record {more : List Act} {offer : Offer}
    (step : ∀ memory : Memory, step responder (task, memory) = (behind, memory.add offer.key offer.data))
    (acts : behind.acts = task.acts ++ more) (unanswered : Act.replies more = [])
    (offered : Act.offers more = [offer]) : Does responder task behind more := by
  refine ⟨acts, ?_, ?_⟩
  · rw [unanswered, offered]
    exact Nat.le_refl 1
  · rw [offered]
    exact step

end

/-- Over memory a step depends on its task alone. -/
theorem exists_does (responder : Responder) (task : Task) :
    ∃ behind more, Does responder task behind more := by
  obtain ⟨phase, connection, acts⟩ := task
  cases phase with
  | greeting => exact ⟨_, _, does_record (fun memory => rfl) rfl rfl rfl⟩
  | reading =>
      refine ⟨read responder ⟨.reading, connection, acts⟩, [], does_nothing (fun memory => rfl) ?_⟩
      rcases come : connection.next with ⟨item, rest⟩
      rw [read, come]
      cases item <;> rfl
  | handling id rest =>
      cases rest with
      | done flow => exact ⟨_, [], does_nothing (fun memory => rfl) rfl⟩
      | log event next => exact ⟨_, _, does_log [event] (fun memory => rfl) rfl⟩
      | reply r next =>
          let task : Task := ⟨.handling id (.reply r next), connection, acts⟩
          rcases written : Client.write r connection with ⟨fault | _, behind⟩
          · exact ⟨_, [], does_nothing (proceed_reply_error responder task id · written next) rfl⟩
          · exact ⟨_, [.replied r], does_reply (proceed_reply_ok responder task id · written next) rfl⟩
      | ifAbandoned asked yes no => exact ⟨_, [], does_nothing (fun memory => rfl) rfl⟩
      | abandon target found missing => exact ⟨_, [], does_nothing (fun memory => rfl) rfl⟩
      | startTls next => exact ⟨_, _, does_log _ (fun memory => rfl) rfl⟩
      | record subject transcript next => exact ⟨_, _, does_record (fun memory => rfl) rfl rfl rfl⟩
  | noting before after goesOn => exact ⟨_, _, does_record (fun memory => rfl) rfl rfl rfl⟩
  | dismissing => exact ⟨_, _, does_record (fun memory => rfl) rfl rfl rfl⟩
  | finished => exact ⟨_, [], does_nothing (fun memory => rfl) rfl⟩

/-- A session with a memory of its own, behind so many steps. -/
def alone (responder : Responder) (connection : Connection) (steps : Nat) : Task × Memory :=
  (step responder)^[steps] (start connection, .empty)

theorem alone_succ (responder : Responder) (connection : Connection) (steps : Nat) :
    alone responder connection (steps + 1) = step responder (alone responder connection steps) :=
  Function.iterate_succ_apply' _ _ _

/-- A session with a memory of its own leaves there what it offers. -/
theorem alone_memory (responder : Responder) (connection : Connection) (steps : Nat) :
    (alone responder connection steps).2 =
      Storage.addAll (Act.offers (alone responder connection steps).1.acts) Memory.empty := by
  induction steps with
  | zero => rfl
  | succ steps ih =>
      obtain ⟨behind, more, does⟩ := exists_does responder (alone responder connection steps).1
      have stepped := does.step (alone responder connection steps).2
      rw [alone_succ, stepped, does.acts, Act.offers_append, Storage.addAll_append, ← ih]

/-- A session with a memory of its own that is over has done what the session does in one go. -/
theorem alone_finished {responder : Responder} {connection : Connection} {steps : Nat}
    (finished : (alone responder connection steps).1.phase = .finished) :
    alone responder connection steps = served .finished [] (connection.session responder Memory.empty) := by
  obtain ⟨enough, ends⟩ := exists_enough responder connection Memory.empty
  have ended := ends (enough + steps) (Nat.le_add_right enough steps)
  rw [Function.iterate_add_apply] at ended
  change (step responder)^[enough] (alone responder connection steps) = _ at ended
  rcases stands : alone responder connection steps with ⟨⟨phase, behind, acts⟩, memory⟩
  rw [stands] at finished ended
  cases finished
  rw [← ended]
  exact (iterate_finished responder behind acts memory enough).symm

end Task

/-! ## Schedules -/

/-- Sessions that are under way, and the memory that they share. -/
structure Sessions (ι : Type) where
  tasks : ι → Task
  memory : Memory

namespace Sessions

variable {ι : Type} [DecidableEq ι]

omit [DecidableEq ι] in
/-- Every client has just connected, and nothing is stored. -/
def start (clients : ι → Connection) : Sessions ι := ⟨fun i => .start (clients i), .empty⟩

/-- One of the sessions takes its next step. -/
def step (responder : Responder) (sessions : Sessions ι) (i : ι) : Sessions ι :=
  let (task, memory) := Task.step responder (sessions.tasks i, sessions.memory)
  ⟨Function.update sessions.tasks i task, memory⟩

/-- The sessions take their steps as a schedule says. -/
def run (responder : Responder) (clients : ι → Connection) (schedule : List ι) : Sessions ι :=
  schedule.foldl (step responder) (start clients)

theorem run_concat (responder : Responder) (clients : ι → Connection) (schedule : List ι) (i : ι) :
    run responder clients (schedule ++ [i]) = (run responder clients schedule).step responder i :=
  List.foldl_append

/-- A step leaves every other session where it stands. -/
theorem step_other {responder : Responder} {sessions : Sessions ι} {i j : ι} (other : i ≠ j) :
    (sessions.step responder j).tasks i = sessions.tasks i :=
  Function.update_of_ne other _ _

/-- That each session stands where it would stand alone, behind as many steps of its own, and that memory holds
an interleaving of what the sessions have offered. -/
structure Apart (responder : Responder) (clients : ι → Connection) (schedule : List ι)
    (sessions : Sessions ι) : Prop where
  tasks : ∀ i, sessions.tasks i = (Task.alone responder (clients i) (schedule.count i)).1
  memory : ∃ offers, sessions.memory = Storage.addAll offers Memory.empty ∧
    Interleaves (fun i => Act.offers (sessions.tasks i).acts) offers

theorem apart_start (responder : Responder) (clients : ι → Connection) :
    Apart responder clients [] (start clients) :=
  ⟨fun _ => rfl, [], rfl, .nil⟩

theorem step_does {responder : Responder} {sessions : Sessions ι} {i : ι} {behind : Task} {more : List Act}
    (does : Task.Does responder (sessions.tasks i) behind more) :
    sessions.step responder i =
      ⟨Function.update sessions.tasks i behind, Storage.addAll (Act.offers more) sessions.memory⟩ := by
  rw [step, does.step]

/-- A step writes one reply at most, or makes one offer to storage. -/
theorem acts_step (responder : Responder) (sessions : Sessions ι) (i : ι) :
    ∃ more, ((sessions.step responder i).tasks i).acts = (sessions.tasks i).acts ++ more ∧
      (Act.replies more).length + (Act.offers more).length ≤ 1 := by
  obtain ⟨behind, more, does⟩ := Task.exists_does responder (sessions.tasks i)
  refine ⟨more, ?_, does.grain⟩
  rw [step_does does, ← does.acts]
  exact congrArg Task.acts (Function.update_self i behind sessions.tasks)

section
variable {responder : Responder} {clients : ι → Connection} {schedule : List ι} {sessions : Sessions ι}

/-- Whose step it is stands where it would stand alone behind one step more, and everybody else where they
stood. -/
theorem Apart.tasks_step (apart : Apart responder clients schedule sessions) (i j : ι) :
    (sessions.step responder j).tasks i =
      (Task.alone responder (clients i) ((schedule ++ [j]).count i)).1 := by
  rw [List.count_append]
  by_cases same : i = j
  · subst same
    obtain ⟨behind, more, does⟩ := Task.exists_does responder (sessions.tasks i)
    have own := does.step (Task.alone responder (clients i) (schedule.count i)).2
    rw [apart.tasks] at own
    rw [List.count_singleton_self, Task.alone_succ, own, step_does does]
    exact Function.update_self i behind sessions.tasks
  · rw [step_other same, apart.tasks, List.count_eq_zero_of_not_mem fun among =>
      same (List.mem_singleton.mp among)]
    rfl

/-- What a session offers is put behind what all of them have offered. -/
theorem Apart.memory_step (apart : Apart responder clients schedule sessions) (i : ι) :
    ∃ offers, (sessions.step responder i).memory = Storage.addAll offers Memory.empty ∧
      Interleaves (fun j => Act.offers ((sessions.step responder i).tasks j).acts) offers := by
  obtain ⟨behind, more, does⟩ := Task.exists_does responder (sessions.tasks i)
  obtain ⟨offers, stored, interleaves⟩ := apart.memory
  have further := interleaves.append i (Act.offers more)
  rw [← Act.offers_append, ← does.acts] at further
  have moved := Function.comp_update (fun task : Task => Act.offers task.acts) sessions.tasks i behind
  refine ⟨offers ++ Act.offers more, ?_, ?_⟩
  · rw [step_does does, stored, Storage.addAll_append]
  · rw [step_does does]
    exact (congrArg (Interleaves · _) moved).mpr further

end

theorem apart_run (responder : Responder) (clients : ι → Connection) (schedule : List ι) :
    Apart responder clients schedule (run responder clients schedule) := by
  induction schedule using List.reverseRecOn with
  | nil => exact apart_start responder clients
  | append_singleton schedule i ih =>
      rw [run_concat]
      exact ⟨fun j => ih.tasks_step j i, ih.memory_step i⟩

section
variable {responder : Responder} {clients : ι → Connection} {schedule : List ι} {sessions : Sessions ι}

/-- What memory would hold of a session alone is what it has offered. -/
theorem Apart.memory_alone (apart : Apart responder clients schedule sessions) (i : ι) :
    (Task.alone responder (clients i) (schedule.count i)).2 =
      Storage.addAll (Act.offers (sessions.tasks i).acts) Memory.empty := by
  rw [Task.alone_memory, ← apart.tasks]

/-- What has been offered to memory, in order, is an interleaving of what the sessions offer alone. -/
theorem Apart.offers (apart : Apart responder clients schedule sessions) :
    ∃ offers, sessions.memory = Storage.addAll offers Memory.empty ∧
      Interleaves (fun i => Act.offers (Task.alone responder (clients i) (schedule.count i)).1.acts) offers := by
  obtain ⟨offers, stored, interleaves⟩ := apart.memory
  simp only [apart.tasks] at interleaves
  exact ⟨offers, stored, interleaves⟩

theorem Apart.get (apart : Apart responder clients schedule sessions) (key : String) :
    Interleaves (fun i => (Task.alone responder (clients i) (schedule.count i)).2.get key)
      (sessions.memory.get key) := by
  obtain ⟨offers, stored, interleaves⟩ := apart.memory
  simp only [apart.memory_alone, stored, Memory.get_addAll_empty]
  exact (interleaves.filter fun offer => offer.key = key).map (·.data)

theorem Apart.size [Fintype ι] (apart : Apart responder clients schedule sessions) :
    sessions.memory.size = ∑ i, (Task.alone responder (clients i) (schedule.count i)).2.size := by
  obtain ⟨offers, stored, interleaves⟩ := apart.memory
  simp only [apart.memory_alone, stored, Memory.size_addAll_empty]
  exact interleaves.length_eq

end

/-- Sessions with one responder and one memory are isolated, whoever's step is next. Each stands where it would
stand alone with a memory of its own behind as many steps, with the same replies and the same requests flagged;
no step of another, a request to abandon included, changes a flag of its requests, and no step does more than one of
writing a reply and calling storage. Memory has taken an interleaving of what the sessions offer alone, and holds
under each key an interleaving of what they would have left there, and no more. Each of them is over at some time,
and has then done what the session does in one go. -/
theorem run_isolated [Fintype ι] (responder : Responder) (clients : ι → Connection) :
    (∀ schedule,
      let sessions := run responder clients schedule
      let alone (i : ι) := Task.alone responder (clients i) (schedule.count i)
      (∀ i, sessions.tasks i = (alone i).1) ∧
      (∀ i j, i ≠ j → ((sessions.step responder j).tasks i).connection.inFlight =
        (sessions.tasks i).connection.inFlight) ∧
      (∀ i, ∃ more, ((sessions.step responder i).tasks i).acts = (sessions.tasks i).acts ++ more ∧
        (Act.replies more).length + (Act.offers more).length ≤ 1) ∧
      (∃ offers, sessions.memory = Storage.addAll offers Memory.empty ∧
        Interleaves (fun i => Act.offers (alone i).1.acts) offers) ∧
      (∀ key, Interleaves (fun i => (alone i).2.get key) (sessions.memory.get key)) ∧
      sessions.memory.size = ∑ i, (alone i).2.size) ∧
    (∃ enough : ι → Nat, ∀ schedule i, enough i ≤ schedule.count i →
      ((run responder clients schedule).tasks i).phase = .finished) ∧
    ∀ schedule,
      let sessions := run responder clients schedule
      let whole (i : ι) := (clients i).session responder Memory.empty
      (∀ i, (sessions.tasks i).phase = .finished →
        (sessions.tasks i).acts = (whole i).acts ∧ (sessions.tasks i).connection = (whole i).connection) ∧
      ((∀ i, (sessions.tasks i).phase = .finished) →
        (∃ offers, sessions.memory = Storage.addAll offers Memory.empty ∧
          Interleaves (fun i => Act.offers (whole i).acts) offers) ∧
        (∀ key, Interleaves (fun i => (whole i).storage.get key) (sessions.memory.get key)) ∧
        sessions.memory.size = ∑ i, (whole i).storage.size) := by
  refine ⟨?_, ?_, ?_⟩
  · intro schedule sessions alone
    have apart := apart_run responder clients schedule
    exact ⟨apart.tasks, fun i j other => congrArg (·.connection.inFlight) (step_other other),
      acts_step responder sessions, apart.offers, apart.get, apart.size⟩
  · choose enough ends using fun i => Task.exists_enough responder (clients i) Memory.empty
    refine ⟨enough, fun schedule i least => ?_⟩
    rw [(apart_run responder clients schedule).tasks, Task.alone, ends i _ least]
    rfl
  · intro schedule sessions whole
    have apart := apart_run responder clients schedule
    have ended (i : ι) (finished : (sessions.tasks i).phase = .finished) :
        Task.alone responder (clients i) (schedule.count i) = Task.served .finished [] (whole i) := by
      rw [apart.tasks] at finished
      exact Task.alone_finished finished
    constructor
    · intro i finished
      rw [apart.tasks, ended i finished]
      exact ⟨rfl, rfl⟩
    · intro finished
      have did (i : ι) : (Task.alone responder (clients i) (schedule.count i)).1.acts = (whole i).acts :=
        congrArg (·.1.acts) (ended i (finished i))
      have left (i : ι) : (Task.alone responder (clients i) (schedule.count i)).2 = (whole i).storage :=
        congrArg Prod.snd (ended i (finished i))
      refine ⟨?_, ?_, ?_⟩
      · have taken := apart.offers
        simp only [did] at taken
        exact taken
      · intro key
        have held := apart.get key
        simp only [left] at held
        exact held
      · have total := apart.size
        simp only [left] at total
        exact total

/-- Two clients that use the same message id. The second abandons it while the search of the first is in flight,
which flags the request to abandon and not the search; both are served to their ends. -/
theorem run_isolated_same_id :
    let responder : Responder := ⟨"t", ⟨"token", "now"⟩⟩
    let upgrader : Tls.Upgrader := ⟨none, ⟨.other [] [], []⟩, [], .other [] []⟩
    let search : Bytes := [0x30, 0x1a, 2, 1, 7, 0x63, 0x15, 4, 0, 10, 1, 2, 10, 1, 0, 2, 1, 0, 2, 1, 0, 1, 1, 0,
      0x87, 0, 0x30, 0]
    let abandon : Bytes := [0x30, 6, 2, 1, 7, 0x50, 1, 7]
    let clients (i : Fin 2) := Connection.fresh ⟨.v4 127 0 0 1, 4000, 0⟩ upgrader ⟨[], [], []⟩
      [.data (if i = 0 then search else abandon)]
    (((run responder clients [0, 0, 1, 1, 1]).step responder 1).tasks 0).connection.inFlight =
        ⟨[(7, false)]⟩ ∧
      (((run responder clients [0, 0, 1, 1, 1]).step responder 1).tasks 1).connection.inFlight =
        ⟨[(7, true)]⟩ ∧
      (∀ i, ((run responder clients
        [0, 0, 1, 1, 1, 1, 0, 0, 1, 0, 1, 0, 0, 1, 0, 1, 0, 1, 0]).tasks i).phase = .finished) ∧
      Act.replies ((clients 0).session responder Memory.empty).acts =
        [.of 7 (.searchEntry "cn=ldapcatch" entryAttributes), .of 7 (.searchDone .success)] ∧
      ∑ i, ((clients i).session responder Memory.empty).storage.size = 6 := by
  intro responder upgrader search abandon clients
  have finished : ∀ i, ((run responder clients
      [0, 0, 1, 1, 1, 1, 0, 0, 1, 0, 1, 0, 0, 1, 0, 1, 0, 1, 0]).tasks i).phase = .finished := by
    decide +kernel
  have flagged : ((run responder clients [0, 0, 1, 1, 1]).tasks 0).connection.inFlight =
      ⟨[(7, false)]⟩ := by
    decide +kernel
  obtain ⟨any, _, ends⟩ := run_isolated responder clients
  obtain ⟨own, together⟩ := ends [0, 0, 1, 1, 1, 1, 0, 0, 1, 0, 1, 0, 0, 1, 0, 1, 0, 1, 0]
  refine ⟨((any [0, 0, 1, 1, 1]).2.1 0 1 (by decide)).trans flagged, ?_, finished, ?_, ?_⟩
  · decide +kernel
  · rw [← (own 0 (finished 0)).1]
    decide +kernel
  · rw [← (together finished).2.2]
    decide +kernel

end Sessions

end LdapDecoy.Server
