import LdapDecoy.Proofs.Storage.Journal
import LdapDecoy.Proofs.Storage.Memory

/-!
# Memory and journal agree

A recorder over an empty journal leaves there what it leaves in empty memory: the journal refuses no record, has an
entry for each on a line of its own, and under each key the entries are what memory holds.
-/
namespace LdapDecoy.Storage
open Recorder (Call)
open Recorder.Call (makeAll offersOf)

namespace Journal

/-- The entries of a journal, in order: their keys, and their values as they are written. -/
def entries (journal : Journal) : List (String × Bytes) := journal.lines.filterMap filed?

theorem entries_addAll {offers : List Offer} (records : ∀ offer ∈ offers, ∃ record, offer.Holds record)
    (path : String) :
    entries (Storage.addAll offers (⟨path, []⟩ : Journal)) =
      offers.map fun offer => (offer.key, offer.data.dropLast) := by
  rw [entries, lines_addAll records path]
  induction offers with
  | nil => rfl
  | cons offer offers ih =>
      obtain ⟨record, holds⟩ := records offer (.head _)
      rw [List.map_cons, List.filterMap_cons, filed?_entryOf holds, List.map_cons,
        ih fun later among => records later (.tail _ among)]

/-- Under each key the entries, each with the newline of its line, are the data of the offers. -/
theorem under_addAll {offers : List Offer} (records : ∀ offer ∈ offers, ∃ record, offer.Holds record)
    (path key : String) :
    ((entries (Storage.addAll offers (⟨path, []⟩ : Journal))).filter fun entry => entry.1 = key).map
      (fun entry => entry.2 ++ [0x0A]) = Memory.under key offers := by
  rw [entries_addAll records path]
  induction offers with
  | nil => rfl
  | cons offer offers ih =>
      obtain ⟨record, holds⟩ := records offer (.head _)
      obtain ⟨data, value⟩ := data_of_holds holds
      have whole : offer.data.dropLast ++ [0x0A] = offer.data := by rw [value, data]
      have further := ih fun later among => records later (.tail _ among)
      rw [List.map_cons, List.filter_cons, Memory.under, List.filter_cons]
      by_cases same : offer.key = key
      · rw [if_pos (decide_eq_true same), if_pos (decide_eq_true same), List.map_cons, List.map_cons, whole]
        exact congrArg (offer.data :: ·) further
      · have other : ¬ decide (offer.key = key) = true := fun equal => same (of_decide_eq_true equal)
        rw [if_neg other, if_neg other]
        exact further

end Journal

/-- What a recorder's calls leave in a journal that was empty, against what they leave in empty memory: none of them
is refused; the journal has one line for each, which is a JSON object of a key and an interaction and nothing else;
and under each key its interactions are what memory holds, in the same order. -/
theorem journal_agrees_with_memory (path : String) (calls : List (Recorder × Call)) :
    let kept := makeAll calls Memory.empty
    let filed := makeAll calls (⟨path, []⟩ : Journal)
    filed.1 = kept.1 ∧
      Act.stored filed.1 = offersOf calls ∧
      filed.2.lines.length = calls.length ∧
      (∀ line ∈ filed.2.lines, Json.check line = .ok () ∧
        ∃ written key value, Json.members? line = some [("key", written), ("interaction", value)] ∧
          Json.text? written = some key) ∧
      ∀ key, kept.2.get key =
        ((Journal.entries filed.2).filter fun entry => entry.1 = key).map fun entry => entry.2 ++ [0x0A] := by
  intro kept filed
  have records := Recorder.Call.offersOf_areRecords calls
  have stores : kept.2 = Storage.addAll (offersOf calls) Memory.empty :=
    Recorder.Call.storage_makeAll calls Memory.empty
  have files : filed.2 = Storage.addAll (offersOf calls) ⟨path, []⟩ :=
    Recorder.Call.storage_makeAll calls (⟨path, []⟩ : Journal)
  have done : filed.1 = Recorder.Call.taken calls := by
    refine Recorder.Call.acts_makeAll ?_ _
    intro offer among journal
    obtain ⟨record, holds⟩ := records offer among
    rw [Journal.add_of_holds holds]
  have lines : filed.2.lines = (offersOf calls).map Journal.entryOf := by
    rw [files, Journal.lines_addAll records path]
  refine ⟨?_, ?_, ?_, ?_, ?_⟩
  · rw [done]
    exact (Recorder.Call.acts_makeAll (fun _ _ _ => rfl) _).symm
  · rw [done]
    exact Recorder.Call.stored_taken calls
  · rw [lines, List.length_map]
    exact List.length_map ..
  · intro line among
    rw [lines] at among
    obtain ⟨offer, inOffers, rfl⟩ := List.mem_map.mp among
    obtain ⟨record, holds⟩ := records offer inOffers
    obtain ⟨checked, members⟩ := Journal.members?_entryOf holds
    exact ⟨checked, _, offer.key, _, members, Json.text?_text offer.key⟩
  · intro key
    rw [stores, files, Memory.get_addAll_empty]
    exact (Journal.under_addAll records path key).symm

end LdapDecoy.Storage
