import LdapDecoy.Proofs.Correlation.Key
import LdapDecoy.Proofs.Record
import LdapDecoy.Proofs.Responder.Deeds
import LdapDecoy.Proofs.Storage.Memory

/-!
# How storage is partitioned

Keys of identifiers and the token share one table. As long as no key of an identifier can be as wide as the token,
what is held under the token are the records without an identifier, one for each deed that is recorded; and what is
held apart from it are the records of searches that carry one, each with a twin under the token.
-/
namespace LdapDecoy.Responder
open Ldap
open Storage (Memory)

/-- The request and the remote address of the record that some data is. -/
def seen (data : Bytes) : Option (String × String) :=
  (Record.read? data).map fun record => (record.request, record.remote)

theorem seen_line (record : Record) : seen record.line = some (record.request, record.remote) := by
  rw [seen, Record.read?_line]
  rfl

variable {σ : Type} [Client σ]

/-- Whether a record under a key is that of a search which carries an identifier with this key. -/
structure Identifies (domain : String) (deeds : List (Deed σ)) (key : String) (record : Record) : Prop where
  isProbe : Correlation.IsProbe ⟨record.uniqueId, record.fullId⟩
  begins : key.toList <+: record.uniqueId.toList
  search : ∃ client id search, .handled record.time client ⟨id, .search search⟩ ∈ deeds ∧
    Correlation.extract domain search.base = some ⟨record.uniqueId, record.fullId⟩ ∧
    record.request = Transcript.search search ∧ record.remote = (Client.remote client).text

/-- How some deeds have partitioned memory. -/
structure Partition (domain token : String) (deeds : List (Deed σ)) (memory : Memory) : Prop where
  ascends : Memory.Ascends memory.entries
  unidentified : ∀ data ∈ memory.get token,
    ∃ record, Record.read? data = some record ∧ record.uniqueId = "" ∧ record.fullId = ""
  identified : ∀ key, key ≠ token → ∀ data ∈ memory.get key,
    ∃ record, Record.read? data = some record ∧ Identifies domain deeds key record
  /-- Each record apart from the token has one of its own under it, of the same request from the same address. -/
  twins : ∃ twins : List Bytes, twins.Sublist (memory.get token) ∧
    (twins.map seen).Perm ((memory.apart token).map seen)
  recorded : (memory.get token).length = deeds.countP Deed.isRecorded
  carried : (memory.apart token).length = deeds.countP fun deed => (deed.subject domain).isSome

theorem Identifies.mono {domain key : String} {deeds more : List (Deed σ)} {record : Record}
    (identifies : Identifies domain deeds key record) (among : deeds ⊆ more) :
    Identifies domain more key record := by
  obtain ⟨client, id, search, handled, rest⟩ := identifies.search
  exact ⟨identifies.isProbe, identifies.begins, client, id, search, among handled, rest⟩

/-- A deed with an identifier is a search that is recorded. -/
theorem identifies_of_subject {domain : String} {deed : Deed σ} {identifier : Correlation.Identifier}
    (carries : deed.subject domain = some identifier) (deeds : List (Deed σ)) :
    deed.isRecorded = true ∧ Identifies domain (deeds ++ [deed]) identifier.key
      (deed.record identifier.uniqueId identifier.fullId) := by
  obtain ⟨time, client, id, search, rfl, found⟩ := Deed.exists_search carries
  refine ⟨rfl, Correlation.extract_isProbe found, Correlation.key_begins identifier.uniqueId, ?_⟩
  exact ⟨client, id, search, List.mem_append_right deeds (.head _), found, rfl, rfl⟩

namespace Partition

variable {domain token : String} {deeds : List (Deed σ)} {memory : Memory} {deed : Deed σ}

theorem empty (domain token : String) : Partition domain token ([] : List (Deed σ)) Memory.empty where
  ascends := List.Pairwise.nil
  unidentified _ among := nomatch among
  identified _ _ _ among := nomatch among
  twins := ⟨[], List.Sublist.slnil, List.Perm.nil⟩
  recorded := rfl
  carried := rfl

/-- A deed that offers nothing changes nothing. -/
theorem unrecorded (partition : Partition domain token deeds memory) (silent : deed.isRecorded = false)
    (nothing : deed.subject domain = none) : Partition domain token (deeds ++ [deed]) memory where
  ascends := partition.ascends
  unidentified := partition.unidentified
  identified key differs data among := by
    obtain ⟨record, read, identifies⟩ := partition.identified key differs data among
    exact ⟨record, read, identifies.mono (List.subset_append_left deeds [deed])⟩
  twins := partition.twins
  recorded := by
    rw [partition.recorded, List.countP_append, List.countP_singleton, silent]
    rfl
  carried := by
    rw [partition.carried, List.countP_append, List.countP_singleton, nothing]
    rfl

/-! What the token holds when one more record without an identifier has been added. -/

theorem unidentified_append (partition : Partition domain token deeds memory) (deed : Deed σ) :
    ∀ data ∈ memory.get token ++ [(deed.record "" "").line],
      ∃ record, Record.read? data = some record ∧ record.uniqueId = "" ∧ record.fullId = "" := by
  intro data among
  rcases List.mem_append.mp among with before | new
  · exact partition.unidentified data before
  · rw [List.mem_singleton.mp new]
    exact ⟨_, Record.read?_line _, rfl, rfl⟩

theorem recorded_append (partition : Partition domain token deeds memory) (loud : deed.isRecorded = true)
    (data : Bytes) : (memory.get token ++ [data]).length = (deeds ++ [deed]).countP Deed.isRecorded := by
  rw [List.length_append, partition.recorded, List.countP_append, List.countP_singleton, loud]
  rfl

/-- A deed without an identifier is recorded under the token. -/
theorem unattributed (partition : Partition domain token deeds memory) (loud : deed.isRecorded = true)
    (nothing : deed.subject domain = none) :
    Partition domain token (deeds ++ [deed])
      (memory.add token (deed.record "" "").line) := by
  have grown := Memory.get_add partition.ascends token
    (deed.record "" "").line
  have tokens := grown token
  rw [if_pos rfl] at tokens
  refine ⟨Memory.ascends_insert partition.ascends, ?_, ?_, ?_, ?_, ?_⟩
  · rw [tokens]
    exact partition.unidentified_append deed
  · intro key differs data among
    rw [grown key, if_neg differs] at among
    obtain ⟨record, read, identifies⟩ := partition.identified key differs data among
    exact ⟨record, read, identifies.mono (List.subset_append_left deeds [deed])⟩
  · obtain ⟨twins, held, same⟩ := partition.twins
    rw [tokens, Memory.apart_add_self]
    exact ⟨twins, held.trans (List.sublist_append_left _ _), same⟩
  · rw [tokens]
    exact partition.recorded_append loud _
  · rw [Memory.apart_add_self, partition.carried, List.countP_append, List.countP_singleton, nothing]
    rfl

/-- A deed with an identifier is recorded under its key, and once more under the token. -/
theorem attributed (partition : Partition domain token deeds memory)
    (notCut : token.utf8ByteSize ≠ 20) (notWhole : token.utf8ByteSize ≠ 33)
    {identifier : Correlation.Identifier} (carries : deed.subject domain = some identifier) :
    Partition domain token (deeds ++ [deed])
      ((memory.add identifier.key
        (deed.record identifier.uniqueId identifier.fullId).line).add token
          (deed.record "" "").line) := by
  obtain ⟨loud, identifies⟩ := identifies_of_subject carries deeds
  have keyDiffers : identifier.key ≠ token :=
    Correlation.key_ne_of_width identifies.isProbe notCut notWhole
  -- the token has one more record, the identifier's key another one, and no other key has changed
  have first := Memory.get_add partition.ascends identifier.key
    (deed.record identifier.uniqueId identifier.fullId).line
  have ascends : Memory.Ascends
      (memory.add identifier.key (deed.record identifier.uniqueId identifier.fullId).line).entries :=
    Memory.ascends_insert partition.ascends
  have second := Memory.get_add ascends token (deed.record "" "").line
  have tokens := second token
  rw [if_pos rfl, first, if_neg keyDiffers.symm] at tokens
  have others := Memory.apart_add_of_ne keyDiffers memory
    (deed.record identifier.uniqueId identifier.fullId).line
  refine ⟨Memory.ascends_insert ascends, ?_, ?_, ?_, ?_, ?_⟩
  · rw [tokens]
    exact partition.unidentified_append deed
  · intro key differs data among
    have before (inMemory : data ∈ memory.get key) :
        ∃ record, Record.read? data = some record ∧ Identifies domain (deeds ++ [deed]) key record := by
      obtain ⟨record, read, old⟩ := partition.identified key differs data inMemory
      exact ⟨record, read, old.mono (List.subset_append_left deeds [deed])⟩
    rw [second key, if_neg differs, first key] at among
    by_cases same : key = identifier.key
    · rw [if_pos same] at among
      rcases List.mem_append.mp among with old | new
      · exact before old
      · rw [List.mem_singleton.mp new, same]
        exact ⟨_, Record.read?_line _, identifies⟩
    · rw [if_neg same] at among
      exact before among
  · obtain ⟨twins, held, same⟩ := partition.twins
    refine ⟨twins ++ [(deed.record "" "").line], ?_, ?_⟩
    · rw [tokens]
      exact held.append (List.Sublist.refl _)
    · have alike : seen (deed.record "" "").line =
          seen (deed.record identifier.uniqueId identifier.fullId).line := by
        rw [seen_line, seen_line]
        rfl
      rw [Memory.apart_add_self, List.map_append, List.map_singleton, alike]
      have moved : ((memory.apart token).map seen ++
          [seen (deed.record identifier.uniqueId identifier.fullId).line]).Perm
            (((deed.record identifier.uniqueId identifier.fullId).line :: memory.apart token).map seen) :=
        List.perm_append_singleton _ _
      exact ((same.append_right _).trans moved).trans (others.map seen).symm
  · rw [tokens]
    exact partition.recorded_append loud _
  · rw [Memory.apart_add_self, others.length_eq, List.length_cons, partition.carried, List.countP_append,
      List.countP_singleton, carries]
    rfl

end Partition

variable {domain token : String}

/-- Every deed keeps memory partitioned. -/
theorem Partition.offered {deeds : List (Deed σ)} {memory : Memory}
    (partition : Partition domain token deeds memory) (notCut : token.utf8ByteSize ≠ 20)
    (notWhole : token.utf8ByteSize ≠ 33) (deed : Deed σ) :
    Partition domain token (deeds ++ [deed]) (Storage.addAll (deed.offers domain token) memory) := by
  unfold Deed.offers
  cases loud : deed.isRecorded with
  | false => exact partition.unrecorded loud (Deed.subject_of_unrecorded loud domain)
  | true =>
      rw [if_pos rfl]
      cases carries : deed.subject domain with
      | none => exact partition.unattributed loud carries
      | some identifier => exact partition.attributed notCut notWhole carries

variable [HasOutlet σ]

/-- A run keeps memory partitioned. -/
theorem Run.keeps_partition {deeds : List (Deed σ)} {memory last : Memory}
    (run : Run domain token deeds memory last) (notCut : token.utf8ByteSize ≠ 20)
    (notWhole : token.utf8ByteSize ≠ 33) {past : List (Deed σ)}
    (partition : Partition domain token past memory) : Partition domain token (past ++ deeds) last := by
  induction run generalizing past with
  | done =>
      rw [List.append_nil]
      exact partition
  | @handled time client message deeds memory last flow written rest ih =>
      have kept := partition.offered notCut notWhole (.handled time client message)
      rw [← storage_handled written] at kept
      rw [List.append_cons]
      exact ih kept
  | @logged time severity message deeds memory last rest ih =>
      have kept := partition.offered notCut notWhole (.logged time severity message)
      rw [List.append_cons]
      exact ih kept

/-- What a run that begins with empty memory leaves there, if no key of an identifier can be as wide as the token. Under
the token are records without an identifier, as many as there are messages other than requests to unbind and
diagnostics. Under every other key are records of searches, whose identifier begins with the key; they are as many
as there are searches with an identifier, and each of them has a twin of its own under the token. -/
theorem partition_of_run (notCut : token.utf8ByteSize ≠ 20) (notWhole : token.utf8ByteSize ≠ 33)
    {deeds : List (Deed σ)} {memory : Memory} (run : Run domain token deeds Memory.empty memory) :
    Partition domain token deeds memory :=
  run.keeps_partition notCut notWhole (Partition.empty domain token)

/-- A diagnostic, a probe's search, a request to bind and one to unbind. -/
theorem partition_of_probe :
    let client := Scripted.fresh ⟨.v4 127 0 0 1, 4000, 0⟩
    let probe : Search := ⟨"c59e3crp82ke7bcnedq0cfjqdpeyyyyyy.t", 0, .present "cn", ["mail"]⟩
    let deeds : List (Deed Scripted) := [.logged "0" .print "connected", .handled "1" client ⟨7, .search probe⟩,
      .handled "2" client ⟨8, .bind "cn=admin" (.simple "secret")⟩, .handled "3" client ⟨9, .unbind⟩]
    let memory := Storage.addAll (deeds.flatMap (Deed.offers "t" "token")) Memory.empty
    ("token".utf8ByteSize ≠ 20 ∧ "token".utf8ByteSize ≠ 33 ∧ Run "t" "token" deeds Memory.empty memory) ∧
      Partition "t" "token" deeds memory ∧
      (memory.get "token").length = 3 ∧ (memory.apart "token").length = 1 := by
  intro client probe deeds memory
  have notCut : "token".utf8ByteSize ≠ 20 := by decide
  have notWhole : "token".utf8ByteSize ≠ 33 := by decide
  have fits : ∀ deed ∈ deeds, deed.Fits := by
    intro deed among
    simp only [deeds, List.mem_cons, List.not_mem_nil, or_false] at among
    rcases among with rfl | rfl | rfl | rfl <;> trivial
  have run : Run "t" "token" deeds Memory.empty memory := Run.of_fits "t" "token" fits Memory.empty
  have partition := partition_of_run notCut notWhole run
  refine ⟨⟨notCut, notWhole, run⟩, partition, partition.recorded, partition.carried.trans ?_⟩
  decide +kernel

end LdapDecoy.Responder
