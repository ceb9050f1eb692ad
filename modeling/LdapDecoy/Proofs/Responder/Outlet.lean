import LdapDecoy.Proofs.Responder.Run
import LdapDecoy.Responder.Scripted

/-!
# Replies that stop

What a dialogue does when the outlet of its client gives out, against what it does when the outlet works:
if the replies that are left are enough for all of them, the same; if not, it writes so many and ends with
the outlet's fault.
-/
namespace LdapDecoy.Responder
open Ldap

/-- A client whose replies leave through an outlet, on which nothing else about it depends. -/
class HasOutlet (σ : Type) [Client σ] where
  outlet : σ → Outlet
  /-- The client with another outlet. -/
  through : Outlet → σ → σ
  through_outlet : ∀ client : σ, through (outlet client) client = client
  write_through : ∀ (reply : Reply) (outlet : Outlet) (client : σ),
    Client.write reply (through outlet client) = (outlet.write.1, through outlet.write.2 client)
  isAbandoned_through : ∀ (id : MessageId) (outlet : Outlet) (client : σ),
    Client.isAbandoned id (through outlet client) = Client.isAbandoned id client
  abandon_through : ∀ (id : MessageId) (outlet : Outlet) (client : σ),
    Client.abandon id (through outlet client) =
      ((Client.abandon id client).1, through outlet (Client.abandon id client).2)
  startTls_through : ∀ (outlet : Outlet) (client : σ),
    Client.startTls (through outlet client) =
      ((Client.startTls client).1, (Client.startTls client).2.1,
        through outlet (Client.startTls client).2.2)
  remote_through : ∀ (outlet : Outlet) (client : σ),
    Client.remote (through outlet client) = Client.remote client
  remote_abandon : ∀ (id : MessageId) (client : σ),
    Client.remote (Client.abandon id client).2 = Client.remote client
  remote_startTls : ∀ client : σ, Client.remote (Client.startTls client).2.2 = Client.remote client

instance : HasOutlet Scripted where
  outlet client := client.outlet
  through outlet client := { client with outlet }
  through_outlet _ := rfl
  write_through _ _ _ := rfl
  isAbandoned_through _ _ _ := rfl
  abandon_through _ _ _ := rfl
  startTls_through _ _ := rfl
  remote_through _ _ := rfl
  remote_abandon _ _ := rfl
  remote_startTls _ := rfl

open HasOutlet (through)

/-- The fault that an outlet comes to, if it comes to one. -/
def Outlet.fault? : Outlet → Option SessionFault
  | working => none
  | failing _ fault => some fault

theorem Outlet.fault?_eq_none {outlet : Outlet} : outlet.fault? = none ↔ outlet = .working := by
  cases outlet <;> simp [fault?]

/-- Writing does not change what an outlet comes to. -/
theorem Outlet.fault?_write (outlet : Outlet) : outlet.write.2.fault? = outlet.fault? := by
  cases outlet with
  | working => rfl
  | failing left fault => cases left <;> rfl

/-! ## Dialogues through an outlet -/

namespace Dialogue

variable {σ τ : Type} [Client σ] [HasOutlet σ] [Storage τ]
variable (recorder : Recorder) (client : σ) (storage : τ)

theorem run_reply_working (r : Reply) (next : Dialogue) :
    (reply r next).run recorder (through .working client) storage =
      (next.run recorder (through .working client) storage).after [.replied r] :=
  run_reply_ok recorder storage (HasOutlet.write_through r .working client) next

theorem run_reply_succ (r : Reply) (next : Dialogue) (left : Nat) (fault : SessionFault) :
    (reply r next).run recorder (through (.failing (left + 1) fault) client) storage =
      (next.run recorder (through (.failing left fault) client) storage).after [.replied r] :=
  run_reply_ok recorder storage (HasOutlet.write_through r (.failing (left + 1) fault) client) next

/-- A reply that cannot be written ends the dialogue, and leaves client and storage as they were. -/
theorem run_reply_zero (r : Reply) (next : Dialogue) (fault : SessionFault) :
    (reply r next).run recorder (through (.failing 0 fault) client) storage =
      ⟨.error fault, through (.failing 0 fault) client, storage, []⟩ :=
  run_reply_error recorder storage (HasOutlet.write_through r (.failing 0 fault) client) next

/-- What a client is asked besides writing has one answer for all outlets. -/
theorem run_ifAbandoned_through (id : MessageId) (yes no : Dialogue) (outlet : Outlet) :
    (ifAbandoned id yes no).run recorder (through outlet client) storage =
      (if Client.isAbandoned id client then yes else no).run recorder (through outlet client) storage := by
  rw [run_ifAbandoned, HasOutlet.isAbandoned_through]

theorem run_abandon_through (target : MessageId) (found missing : Dialogue) (outlet : Outlet) :
    (abandon target found missing).run recorder (through outlet client) storage =
      (if (Client.abandon target client).1 then found else missing).run recorder
        (through outlet (Client.abandon target client).2) storage := by
  rw [run_abandon, HasOutlet.abandon_through]

theorem run_startTls_through (next : Except TlsFault Unit → Dialogue) (outlet : Outlet) :
    (startTls next).run recorder (through outlet client) storage =
      ((next (Client.startTls client).1).run recorder
        (through outlet (Client.startTls client).2.2) storage).after
          ((Client.startTls client).2.1.map .logged) := by
  rw [run_startTls, HasOutlet.startTls_through]

/-- How an outcome with `left` replies is cut from the one with a working outlet. -/
structure Cut (left : Nat) (fault : SessionFault) (cut full : Outcome σ τ) : Prop where
  enough : (Act.replies full.acts).length ≤ left → cut.result = full.result ∧ cut.acts = full.acts
  short : left < (Act.replies full.acts).length →
    cut.result = .error fault ∧ Act.replies cut.acts = (Act.replies full.acts).take left

section
omit [Client σ] [HasOutlet σ] [Storage τ]
variable {left : Nat} {fault : SessionFault} {cut full : Outcome σ τ}

/-- Acts without a reply may stand in front. -/
theorem Cut.after (isCut : Cut left fault cut full) {acts : List Act} (none : Act.replies acts = []) :
    Cut left fault (cut.after acts) (full.after acts) := by
  have same (outcome : Outcome σ τ) : Act.replies (outcome.after acts).acts = Act.replies outcome.acts := by
    rw [Outcome.after_acts, Act.replies_append, none, List.nil_append]
  constructor
  · intro enough
    rw [same] at enough
    obtain ⟨result, equal⟩ := isCut.enough enough
    exact ⟨result, congrArg (acts ++ ·) equal⟩
  · intro short
    rw [same] at short ⊢
    rw [same]
    exact isCut.short short

theorem Cut.replied (isCut : Cut left fault cut full) (r : Reply) :
    Cut (left + 1) fault (cut.after [.replied r]) (full.after [.replied r]) := by
  have same (outcome : Outcome σ τ) :
      Act.replies (outcome.after [.replied r]).acts = r :: Act.replies outcome.acts := rfl
  constructor
  · intro enough
    rw [same] at enough
    obtain ⟨result, equal⟩ := isCut.enough (Nat.le_of_succ_le_succ enough)
    exact ⟨result, congrArg (Act.replied r :: ·) equal⟩
  · intro short
    rw [same] at short
    obtain ⟨result, replies⟩ := isCut.short (Nat.lt_of_succ_lt_succ short)
    rw [same, same, replies]
    exact ⟨result, rfl⟩

theorem Cut.stopped (full : Outcome σ τ) (client : σ) (storage : τ) (r : Reply) :
    Cut 0 fault ⟨.error fault, client, storage, []⟩ (full.after [.replied r]) :=
  ⟨fun enough => absurd enough (Nat.not_succ_le_zero _), fun _ => ⟨rfl, rfl⟩⟩

end

/-- What a dialogue does through an outlet that fails is cut from what it does through a working one. -/
theorem run_cut (dialogue : Dialogue) (left : Nat) (fault : SessionFault) :
    Cut left fault (dialogue.run recorder (through (.failing left fault) client) storage)
      (dialogue.run recorder (through .working client) storage) := by
  -- each reply that is written takes one of those that are left
  induction dialogue generalizing client storage left with
  | done flow => exact ⟨fun _ => ⟨rfl, rfl⟩, fun short => absurd short (Nat.not_lt_zero _)⟩
  | log event next ih => exact (ih client storage left).after rfl
  | reply r next ih =>
      rw [run_reply_working]
      cases left with
      | zero =>
          rw [run_reply_zero]
          exact Cut.stopped _ _ _ _
      | succ left =>
          rw [run_reply_succ]
          exact (ih client storage left).replied r
  | ifAbandoned id yes no ihYes ihNo =>
      rw [run_ifAbandoned_through, run_ifAbandoned_through]
      split
      · exact ihYes client storage left
      · exact ihNo client storage left
  | abandon target found missing ihFound ihMissing =>
      rw [run_abandon_through, run_abandon_through]
      split
      · exact ihFound _ storage left
      · exact ihMissing _ storage left
  | startTls next ih =>
      rw [run_startTls_through, run_startTls_through]
      exact (ih _ _ storage left).after (Act.replies_map_logged _)
  | record subject transcript next ih =>
      rw [run_record, run_record, HasOutlet.remote_through, HasOutlet.remote_through]
      exact (ih client _ left).after (Recorder.replies_record _ _ _ _ _)

end Dialogue

end LdapDecoy.Responder
