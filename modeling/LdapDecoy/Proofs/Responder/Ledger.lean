import LdapDecoy.Proofs.Recorder
import LdapDecoy.Proofs.Responder.Atomic
import LdapDecoy.Proofs.Storage.Unreliable

/-!
# The ledger of a store

Acts as the ledger of a store: every offer has its capture logged directly before it, and directly behind it that it
could not be stored, where storage has refused it; nothing else says either, and what storage holds has changed by
the offers that it took. Dialogues and the calls of a recorder keep the ledger, however storage answers.
-/
namespace LdapDecoy

/-- Whether an event is about an interaction that is captured. -/
def Event.IsInteraction (event : Event) : Prop :=
  event.tag = some .interactionDebug ∨ event.tag = some .interactionWarn

instance (event : Event) : Decidable event.IsInteraction := inferInstanceAs (Decidable (_ ∨ _))

/-- Whether no event is about an interaction. -/
def Event.AreAside (events : List Event) : Prop := ∀ event ∈ events, ¬ event.IsInteraction

namespace Act

theorem events_append (acts more : List Act) : events (acts ++ more) = events acts ++ events more :=
  List.filterMap_append

theorem stored_append (acts more : List Act) : stored (acts ++ more) = stored acts ++ stored more :=
  List.filterMap_append

/-- Whether an act has nothing to do with storage. -/
def IsAside : Act → Prop
  | .logged event => ¬ event.IsInteraction
  | .replied _ => True
  | .offered _ _ => False

/-- How many records have been captured at the end of some acts of which it is not yet settled whether they are
stored: one, where storage has not answered or its refusal has not been logged. -/
def inHand (acts : List Act) : Nat :=
  match acts.getLast? with
  | some (.logged event) => if event = .tagged .interactionDebug "LDAP Interaction" then 1 else 0
  | some (.offered _ (.error _)) => 1
  | some (.offered _ (.ok ())) | some (.replied _) | none => 0

/-- Behind acts that leave nothing in hand, only the further ones count. -/
theorem inHand_append {acts : List Act} (settled : inHand acts = 0) (more : List Act) :
    inHand (acts ++ more) = inHand more := by
  rcases List.eq_nil_or_concat more with rfl | ⟨init, last, rfl⟩
  · rw [List.append_nil, settled]
    rfl
  · rw [List.concat_eq_append, ← List.append_assoc]
    simp only [inHand, List.getLast?_concat]

/-- Whether as many records have been captured in some acts as are stored, refused or in hand. -/
def Balanced (acts : List Act) : Prop :=
  (events acts).count (.tagged .interactionDebug "LDAP Interaction") =
    (stored acts).length + (events acts).count (.tagged .interactionWarn "Could not store ldap interaction") +
      inHand acts

theorem Balanced.append {acts more : List Act} (balanced : Balanced acts) (settled : inHand acts = 0)
    (further : Balanced more) : Balanced (acts ++ more) := by
  unfold Balanced at balanced further ⊢
  rw [events_append, stored_append, List.count_append, List.count_append, List.length_append,
    inHand_append settled]
  omega

theorem IsAside.offers {act : Act} (isAside : act.IsAside) : Act.offers [act] = [] := by
  cases act with
  | logged event | replied reply => rfl
  | offered offer outcome => exact isAside.elim

theorem IsAside.stored {act : Act} (isAside : act.IsAside) : Act.stored [act] = [] := by
  cases act with
  | logged event | replied reply => rfl
  | offered offer outcome => exact isAside.elim

theorem IsAside.settled {act : Act} (isAside : act.IsAside) : Balanced [act] ∧ inHand [act] = 0 := by
  cases act with
  | logged event =>
      have notCaptured : event ≠ .tagged .interactionDebug "LDAP Interaction" :=
        fun same => isAside (.inl (same ▸ rfl))
      have notRefused : event ≠ .tagged .interactionWarn "Could not store ldap interaction" :=
        fun same => isAside (.inr (same ▸ rfl))
      have settled : inHand [.logged event] = 0 := if_neg notCaptured
      refine ⟨?_, settled⟩
      unfold Balanced
      rw [settled]
      change List.count _ [event] = 0 + List.count _ [event] + 0
      rw [List.count_singleton, List.count_singleton, if_neg, if_neg]
      · exact fun same => notRefused (beq_iff_eq.mp same)
      · exact fun same => notCaptured (beq_iff_eq.mp same)
  | replied reply => exact ⟨rfl, rfl⟩
  | offered offer outcome => exact isAside.elim

end Act

open Act

/-- An entry: an act aside from storage, or a call of it with what is logged around it, between two states of a
store. -/
inductive Entry {τ : Type} [Storage τ] : τ → List Act → τ → Prop where
  | aside {act : Act} {storage : τ} (isAside : act.IsAside) : Entry storage [act] storage
  | taken {offer : Offer} {before after : τ} (answers : Storage.add offer before = (.ok (), after)) :
      Entry before [.logged (.tagged .interactionDebug "LDAP Interaction"), .offered offer (.ok ())] after
  | refused {offer : Offer} {fault : StorageFault} {before after : τ}
      (answers : Storage.add offer before = (.error fault, after)) :
      Entry before
        [.logged (.tagged .interactionDebug "LDAP Interaction"), .offered offer (.error fault),
          .logged (.tagged .interactionWarn "Could not store ldap interaction")]
        after

/-- Acts between two states of a store, entry by entry. -/
inductive Ledger {τ : Type} [Storage τ] : τ → List Act → τ → Prop where
  | closed {storage : τ} : Ledger storage [] storage
  | entered {before middle after : τ} {acts more : List Act} (entry : Entry before acts middle)
      (rest : Ledger middle more after) : Ledger before (acts ++ more) after

namespace Entry

variable {τ : Type} [Storage τ] {before after : τ} {acts : List Act}

/-- In an entry storage is called with what is offered. -/
theorem storage_eq (entry : Entry before acts after) : after = Storage.addAll (offers acts) before := by
  cases entry with
  | aside isAside =>
      rw [isAside.offers]
      rfl
  | taken answers | refused answers => exact (congrArg Prod.snd answers).symm

theorem settled (entry : Entry before acts after) : inHand acts = 0 := by
  cases entry with
  | aside isAside => exact isAside.settled.2
  | taken answers => rfl
  | refused answers => rfl

/-- Wherever an entry is cut, it is balanced. -/
theorem balanced (entry : Entry before acts after) {front : List Act} (begins : front <+: acts) :
    Balanced front := by
  cases entry with
  | aside isAside =>
      rcases List.prefix_cons_iff.mp begins with rfl | ⟨none, rfl, behind⟩
      · rfl
      rw [List.prefix_nil.mp behind]
      exact isAside.settled.1
  | taken answers =>
      rcases List.prefix_cons_iff.mp begins with rfl | ⟨further, rfl, offered⟩
      · rfl
      rcases List.prefix_cons_iff.mp offered with rfl | ⟨none, rfl, behind⟩
      · rfl
      rw [List.prefix_nil.mp behind]
      rfl
  | refused answers =>
      rcases List.prefix_cons_iff.mp begins with rfl | ⟨further, rfl, offered⟩
      · rfl
      rcases List.prefix_cons_iff.mp offered with rfl | ⟨last, rfl, warned⟩
      · rfl
      rcases List.prefix_cons_iff.mp warned with rfl | ⟨none, rfl, behind⟩
      · rfl
      rw [List.prefix_nil.mp behind]
      rfl

end Entry

namespace Ledger

variable {τ : Type} [Storage τ] {before middle after : τ} {acts more : List Act}

theorem of_entry (entry : Entry before acts after) : Ledger before acts after := by
  rw [← List.append_nil acts]
  exact .entered entry .closed

theorem append (ledger : Ledger before acts middle) (further : Ledger middle more after) :
    Ledger before (acts ++ more) after := by
  induction ledger with
  | closed => exact further
  | entered entry _ ih =>
      rw [List.append_assoc]
      exact .entered entry (ih further)

theorem asides (all : ∀ act ∈ acts, act.IsAside) (storage : τ) : Ledger storage acts storage := by
  induction acts with
  | nil => exact .closed
  | cons act acts ih =>
      exact .entered (.aside (all act (.head _))) (ih fun other among => all other (.tail _ among))

/-- Along a ledger storage is called with what is offered, each time it is, and not otherwise. -/
theorem storage_eq (ledger : Ledger before acts after) : after = Storage.addAll (offers acts) before := by
  induction ledger with
  | closed => rfl
  | entered entry _ ih => rw [ih, entry.storage_eq, ← Storage.addAll_append, offers_append]

/-- Nothing is in hand behind a ledger. -/
theorem settled (ledger : Ledger before acts after) : inHand acts = 0 := by
  induction ledger with
  | closed => rfl
  | entered entry _ ih => exact (inHand_append entry.settled _).trans ih

/-- At every point of a ledger as many records have been captured as are stored, refused or in hand. -/
theorem balanced (ledger : Ledger before acts after) {front : List Act} (begins : front <+: acts) :
    Balanced front := by
  induction ledger generalizing front with
  | closed =>
      rw [List.prefix_nil.mp begins]
      rfl
  | @entered _ _ _ acts more entry _ ih =>
      rcases List.prefix_or_prefix_of_prefix begins (List.prefix_append acts more) with
        within | ⟨front, rfl⟩
      · exact entry.balanced within
      · have further : front <+: more := (List.prefix_append_right_inj acts).mp begins
        exact (entry.balanced (List.prefix_refl acts)).append entry.settled (ih further)

end Ledger

/-! ## What is held behind a ledger -/

section
open Storage (Unreliable Steady)

variable {τ : Type} [Storage τ] [Steady τ] {before after : Unreliable τ} {acts : List Act}

/-- What is held changes by what has been taken. -/
theorem Entry.held_eq (entry : Entry before acts after) :
    after.held = Storage.addAll (stored acts) before.held := by
  cases entry with
  | aside isAside =>
      rw [isAside.stored]
      rfl
  | @taken offer _ _ answers =>
      rcases Unreliable.add_cases offer before with ⟨fault, refuses⟩ | ⟨held, takes, added⟩
      · cases answers.symm.trans refuses
      · cases answers.symm.trans added
        exact (congrArg Prod.snd takes).symm
  | @refused offer fault _ _ answers =>
      rcases Unreliable.add_cases offer before with ⟨fault, refuses⟩ | ⟨held, takes, added⟩
      · cases answers.symm.trans refuses
        rfl
      · cases answers.symm.trans added

/-- What a store that fails now and then holds behind a ledger is what it took, on top of what it held. -/
theorem Ledger.held_eq (ledger : Ledger before acts after) :
    after.held = Storage.addAll (stored acts) before.held := by
  induction ledger with
  | closed => rfl
  | entered entry _ ih => rw [ih, entry.held_eq, ← Storage.addAll_append, stored_append]

end

/-! ## Who keeps the ledger -/

namespace Recorder

variable {τ : Type} [Storage τ]

/-- A submission is an entry, whatever storage answers. -/
theorem submit_entry (offer : Offer) (storage : τ) :
    Entry storage (submit offer storage).1 (submit offer storage).2 := by
  rcases answers : Storage.add offer storage with ⟨fault | _, behind⟩
  · rw [submit, answers]
    exact .refused answers
  · rw [submit, answers]
    exact .taken answers

theorem ledger_record (recorder : Recorder) (subject : Option Correlation.Identifier)
    (request remote : String) (storage : τ) :
    Ledger storage (recorder.record subject request remote storage).1
      (recorder.record subject request remote storage).2 :=
  .of_entry (submit_entry (recorder.offer subject request remote) storage)

theorem ledger_make (recorder : Recorder) (call : Call) (storage : τ) :
    Ledger storage (call.make recorder storage).1 (call.make recorder storage).2 := by
  rw [Call.make_eq]
  exact .of_entry (submit_entry (call.offer recorder) storage)

/-- A diagnostic is not about an interaction, whatever it says. -/
theorem severity_aside (severity : Severity) (message : String) :
    (Act.logged (.tagged severity.tag message)).IsAside := by
  rintro (same | same) <;> cases severity <;> cases same

theorem ledger_log (recorder : Recorder) (severity : Severity) (message : String) (storage : τ) :
    Ledger storage (recorder.log severity message storage).1
      (recorder.log severity message storage).2 := by
  have recorded := recorder.ledger_record none message "" storage
  exact .entered (.aside (severity_aside severity message)) recorded

end Recorder

end LdapDecoy

namespace LdapDecoy.Responder
open Act Ldap

/-- A client whose upgrades say nothing about interactions. -/
class Discreet (σ : Type) [Client σ] : Prop where
  startTls : ∀ client : σ, Event.AreAside (Client.startTls client).2.1

instance : Discreet Scripted where
  startTls _ _ among := nomatch among

namespace Dialogue

/-- Whether a dialogue itself says nothing about interactions, and leaves that to the recorder. -/
def IsDiscreet : Dialogue → Prop
  | done _ => True
  | log event next => ¬ event.IsInteraction ∧ next.IsDiscreet
  | reply _ next => next.IsDiscreet
  | ifAbandoned _ yes no => yes.IsDiscreet ∧ no.IsDiscreet
  | abandon _ found missing => found.IsDiscreet ∧ missing.IsDiscreet
  | startTls next => ∀ upgraded, (next upgraded).IsDiscreet
  | record _ _ next => next.IsDiscreet

theorem unscripted_isDiscreet (id : MessageId) (operation : Operation) (response : Response) :
    (unscripted id operation response).IsDiscreet :=
  ⟨by decide, trivial⟩

theorem searched_isDiscreet (domain : String) (request : Search) : (searched domain request).IsDiscreet := by
  unfold searched
  cases Correlation.extract domain request.base with
  | none => trivial
  | some identifier => exact ⟨by decide, trivial⟩

theorem search_isDiscreet (domain : String) (id : MessageId) (request : Search) :
    (search domain id request).IsDiscreet := by
  have finish := searched_isDiscreet domain request
  exact ⟨⟨by decide, finish⟩, finish⟩

theorem abandoning_isDiscreet (target : MessageId) : (abandoning target).IsDiscreet :=
  ⟨⟨by decide, trivial⟩, ⟨by decide, trivial⟩⟩

theorem upgrade_isDiscreet (id : MessageId) : (upgrade id).IsDiscreet := by
  intro upgraded
  cases upgraded with
  | ok _ => exact ⟨by decide, trivial⟩
  | error fault => exact ⟨by decide, trivial⟩

theorem plan_isDiscreet (domain : String) (message : Message) : (plan domain message).IsDiscreet := by
  refine ⟨by decide, ?_⟩
  obtain ⟨id, operation⟩ := message
  cases operation with
  | bind dn credentials =>
      cases credentials with
      | simple password => trivial
      | sasl mechanism octets => exact unscripted_isDiscreet id _ _
  | unbind => exact ⟨by decide, trivial⟩
  | search request => exact search_isDiscreet domain id request
  | modifyDn dn newRdn newSuperior => exact unscripted_isDiscreet id _ _
  | abandon target => exact abandoning_isDiscreet target
  | extended name value =>
      change (Dialogue.extended id name value).IsDiscreet
      unfold Dialogue.extended
      split
      · exact upgrade_isDiscreet id
      · trivial
  | unexpected kind => exact unscripted_isDiscreet id _ _
  | modify _ _ | add _ _ | delete _ | compare _ _ _ => trivial

variable {σ τ : Type} [Client σ] [Discreet σ] [Storage τ]

/-- A dialogue that is discreet keeps the ledger of storage. -/
theorem ledger_run (recorder : Recorder) {dialogue : Dialogue} (discreet : dialogue.IsDiscreet) (client : σ)
    (storage : τ) :
    Ledger storage (dialogue.run recorder client storage).acts
      (dialogue.run recorder client storage).storage := by
  induction dialogue generalizing client storage with
  | done flow => exact .closed
  | log event next ih => exact .entered (.aside discreet.1) (ih discreet.2 client storage)
  | reply r next ih =>
      rcases written : Client.write r client with ⟨fault | _, behind⟩
      · rw [run_reply_error recorder storage written]
        exact .closed
      · rw [run_reply_ok recorder storage written]
        exact .entered (.aside trivial) (ih discreet behind storage)
  | ifAbandoned id yes no ihYes ihNo =>
      rw [run_ifAbandoned]
      split
      · exact ihYes discreet.1 client storage
      · exact ihNo discreet.2 client storage
  | abandon target found missing ihFound ihMissing =>
      rw [run_abandon]
      split
      · exact ihFound discreet.1 _ storage
      · exact ihMissing discreet.2 _ storage
  | startTls next ih =>
      rw [run_startTls, Outcome.after_acts, Outcome.after_storage]
      refine Ledger.append (.asides ?_ storage) (ih _ (discreet _) _ storage)
      intro act among
      obtain ⟨event, logged, rfl⟩ := List.mem_map.mp among
      exact Discreet.startTls client event logged
  | record subject transcript next ih =>
      rw [run_record, Outcome.after_acts, Outcome.after_storage]
      exact (recorder.ledger_record subject transcript _ storage).append (ih discreet client _)

end Dialogue

end LdapDecoy.Responder
