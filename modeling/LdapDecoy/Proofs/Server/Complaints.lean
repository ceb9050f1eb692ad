import LdapDecoy.Proofs.Record
import LdapDecoy.Proofs.Server.Account

/-!
# Complaints

The records of malformed messages, told from all others by what is written in them. A diagnostic has no remote
address and begins with the client that it is about, and a transcript begins with the type of the request. Of what
is recorded about an item, the record of a malformed message is a complaint, and nothing else is.
-/
namespace LdapDecoy.Server
open Ldap Responder

/-- How the record of a client's malformed message begins. -/
def complaint (remote : Net.Endpoint) : String := "LDAP client " ++ remote.text ++ " sent an invalid message: "

/-- Whether an offer is one of a record of the server itself that a client has sent a malformed message. -/
def complains (remote : Net.Endpoint) (offer : Offer) : Bool :=
  match Record.read? offer.data with
  | none => false
  | some record => record.remote.isEmpty && (complaint remote).toList.isPrefixOf record.request.toList

theorem complains_offer (remote : Net.Endpoint) (recorder : Recorder)
    (subject : Option Correlation.Identifier) (request text : String) :
    complains remote (recorder.offer subject request text) =
      (text.isEmpty && (complaint remote).toList.isPrefixOf request.toList) := by
  cases subject <;> simp only [complains, Recorder.offer, Record.read?_line]

theorem complains_about (responder : Responder) (remote : Net.Endpoint) (what : String) :
    complains remote (about responder remote what) =
      " sent an invalid message: ".toList.isPrefixOf what.toList := by
  have empty : "".isEmpty = true := rfl
  rw [about, Recorder.internal, complains_offer, empty, Bool.true_and, Bool.eq_iff_iff,
    List.isPrefixOf_iff_prefix, List.isPrefixOf_iff_prefix, complaint]
  rw [String.toList_append, @String.toList_append ("LDAP client " ++ remote.text) what,
    List.prefix_append_right_inj]

theorem complains_connected (responder : Responder) (remote : Net.Endpoint) :
    complains remote (about responder remote " connected") = false :=
  complains_about responder remote " connected"

theorem complains_disconnected (responder : Responder) (remote : Net.Endpoint) :
    complains remote (about responder remote " disconnected") = false :=
  complains_about responder remote " disconnected"

/-- What begins with another letter than a complaint is none. -/
theorem not_complains_of_head {request : String} {letter : Char} {rest : List Char}
    (begins : request.toList = letter :: rest) (other : letter ≠ 'L') (remote : Net.Endpoint)
    (recorder : Recorder) (subject : Option Correlation.Identifier) (text : String) :
    complains remote (recorder.offer subject request text) = false := by
  have first : "LDAP client ".toList = 'L' :: "DAP client ".toList := rfl
  rw [complains_offer, Bool.and_eq_false_iff]
  right
  rw [complaint, String.toList_append, String.toList_append, first, begins, List.cons_append,
    List.cons_append, List.isPrefixOf, beq_false_of_ne other.symm, Bool.false_and]

/-! ## Transcripts -/

/-- A text that begins as the transcripts do: with the type of the request. -/
def Typed (text : String) : Prop := ∃ rest, text.toList = 'T' :: rest

theorem Typed.append {text : String} (typed : Typed text) (more : String) : Typed (text ++ more) := by
  obtain ⟨rest, begins⟩ := typed
  refine ⟨rest ++ more.toList, ?_⟩
  rw [String.toList_append, begins, List.cons_append]

theorem typed_line (name : String) : Typed (Transcript.line "Type" name) := by
  have typed : Typed "Type" := ⟨_, rfl⟩
  exact ((typed.append "=").append name).append "\n"

theorem typed_transcript (upgrade : Except TlsFault Unit) (operation : Operation) :
    Typed (Policy.transcript upgrade operation) := by
  cases operation with
  | bind dn credentials =>
      cases credentials with
      | simple password => exact (((typed_line "Bind").append _).append _).append _
      | sasl mechanism octets => exact typed_line _
  | search request => exact (((((typed_line "Search").append _).append _).append _).append _).append _
  | modify dn changes => exact ((typed_line "Modify").append _).append _
  | add dn attributes => exact ((typed_line "Add").append _).append _
  | delete dn => exact (typed_line "Delete").append _
  | compare dn attr value => exact (((typed_line "Compare").append _).append _).append _
  | abandon target => exact (typed_line "Abandon").append _
  | extended name value =>
      simp only [Policy.transcript]
      split
      · cases upgrade <;> exact (typed_line "StartTLS").append _
      split
      · exact typed_line "WhoAmI"
      · exact ((typed_line "Extended").append _).append _
  | unbind | modifyDn _ _ _ | unexpected _ => exact typed_line _

theorem not_complains_of_policy (remote : Net.Endpoint) (responder : Responder) (text : String)
    (upgrade : Except TlsFault Unit) (operation : Operation) :
    ∀ offer ∈ Policy.offers responder text upgrade operation, complains remote offer = false := by
  intro offer among
  obtain ⟨key, rfl⟩ := Policy.exists_of_mem_offers among
  obtain ⟨rest, typed⟩ := typed_transcript upgrade operation
  exact not_complains_of_head typed (by decide) remote responder.recorder key text

/-! ## Items -/

namespace Connection.Item

/-- Whether an item is a malformed message. -/
def isMalformed : Item → Bool
  | .malformed _ => true
  | .message _ | .unreadable _ | .ended => false

/-- Of what is recorded about an item, the record of a malformed message is a complaint, and nothing else is. -/
theorem complains_offers (responder : Responder) (remote : Net.Endpoint) (item : Item) :
    ∀ offer ∈ item.offers responder remote, complains remote offer = item.isMalformed := by
  intro offer among
  cases item with
  | ended => cases among
  | malformed flaw =>
      obtain rfl := List.mem_singleton.mp among
      rw [complains_about, String.toList_append]
      exact List.isPrefixOf_iff_prefix.mpr (List.prefix_append _ _)
  | unreadable fault =>
      obtain rfl := List.mem_singleton.mp among
      rw [complains_about, String.toList_append]
      rfl
  | message message =>
      have alone := shows_handle responder message (Scripted.fresh remote) Storage.Memory.empty trivial
      rw [Item.offers, Server.alone, alone.offers] at among
      exact not_complains_of_policy remote responder _ _ message.operation offer among

theorem filter_offers (responder : Responder) (remote : Net.Endpoint) (item : Item) :
    (item.offers responder remote).filter (fun offer => !complains remote offer) =
      if item.isMalformed then [] else item.offers responder remote := by
  have among := item.complains_offers responder remote
  cases malformed : item.isMalformed with
  | true =>
      rw [malformed] at among
      rw [if_pos rfl, List.filter_eq_nil_iff]
      intro offer isOffer
      rw [among offer isOffer]
      decide
  | false =>
      rw [malformed] at among
      rw [if_neg Bool.false_ne_true, List.filter_eq_self]
      intro offer isOffer
      rw [among offer isOffer]
      rfl

theorem countP_offers (responder : Responder) (remote : Net.Endpoint) (item : Item) :
    (item.offers responder remote).countP (complains remote) = if item.isMalformed then 1 else 0 := by
  have among := item.complains_offers responder remote
  cases item with
  | malformed flaw =>
      have one : (Item.malformed flaw).offers responder remote =
          [about responder remote (" sent an invalid message: " ++
            (SessionFault.malformed flaw.message).message)] := rfl
      rw [one] at among ⊢
      exact List.countP_eq_length.mpr among
  | message _ | unreadable _ | ended =>
      rw [isMalformed, if_neg Bool.false_ne_true, List.countP_eq_zero]
      intro offer isOffer
      rw [among offer isOffer]
      exact Bool.false_ne_true

end Connection.Item

end LdapDecoy.Server
