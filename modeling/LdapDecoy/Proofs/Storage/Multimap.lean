import LdapDecoy.Proofs.Storage.Memory
import LdapDecoy.Proofs.Text.Order
import Mathlib.Algebra.GroupWithZero.Nat

/-!
# Memory as a multimap

Whatever is added to memory and asked of it in between, each answer can be read off the plain history of what was
added before: the data of a key in the order of its offers, the keys in the order of their octets, and the counts.
-/
namespace LdapDecoy.Storage.Memory

/-! ## The keys of a table -/

theorem mem_keys_insert {key : String} {data : Bytes} {entries : List (String × List Bytes)} {wanted : String} :
    wanted ∈ (insert key data entries).map (·.1) ↔ wanted = key ∨ wanted ∈ entries.map (·.1) := by
  fun_induction insert key data entries with
  | case1 => simp
  | case2 held rest => simp
  | case3 k held rest other smaller => simp
  | case4 k held rest other larger ih =>
      rw [List.map_cons, List.mem_cons, ih, List.map_cons, List.mem_cons]
      exact or_left_comm

/-- In an ascending table each entry is what is found under its key. -/
theorem map_held {entries : List (String × List Bytes)} (ascends : Ascends entries) :
    entries.map (fun entry => held entries entry.1) = entries.map (·.2) := by
  induction entries with
  | nil => rfl
  | cons entry rest ih =>
      obtain ⟨key, data⟩ := entry
      obtain ⟨above, further⟩ := List.pairwise_cons.mp ascends
      rw [List.map_cons, List.map_cons, held_cons, if_pos rfl, ← ih further]
      congr 1
      apply List.map_congr_left
      intro entry among
      have other : entry.1 ≠ key := (String.ne_of_lt (above entry among)).symm
      rw [held_cons, if_neg other]

theorem size_eq_sum (memory : Memory) : memory.size = (memory.entries.map (·.2.length)).sum := by
  obtain ⟨entries⟩ := memory
  induction entries with
  | nil => rfl
  | cons entry rest ih =>
      rw [List.map_cons, List.sum_cons, ← ih]
      rfl

/-- The data under the keys, counted key by key. -/
theorem size_eq_sum_get {memory : Memory} (ascends : Ascends memory.entries) :
    memory.size = (memory.keys.map fun key => (memory.get key).length).sum := by
  rw [size_eq_sum, keys, List.map_map]
  have lengths := congrArg (List.map List.length) (map_held ascends)
  rw [List.map_map, List.map_map] at lengths
  exact congrArg List.sum lengths.symm

/-! ## Memory after some offers -/

theorem ascends_addAll {memory : Memory} (ascends : Ascends memory.entries) (offers : List Offer) :
    Ascends (Storage.addAll offers memory).entries := by
  induction offers generalizing memory with
  | nil => exact ascends
  | cons offer rest ih =>
      have further : Ascends (memory.add offer.key offer.data).entries := ascends_insert ascends
      exact ih further

theorem ascends_addAll_empty (offers : List Offer) : Ascends (Storage.addAll offers empty).entries :=
  ascends_addAll List.Pairwise.nil offers

theorem mem_keys_addAll {memory : Memory} {offers : List Offer} {wanted : String} :
    wanted ∈ (Storage.addAll offers memory).keys ↔
      wanted ∈ memory.keys ∨ ∃ offer ∈ offers, offer.key = wanted := by
  induction offers generalizing memory with
  | nil => simp [Storage.addAll]
  | cons offer rest ih =>
      change wanted ∈ (Storage.addAll rest (memory.add offer.key offer.data)).keys ↔ _
      have added : wanted ∈ (memory.add offer.key offer.data).keys ↔ wanted = offer.key ∨ wanted ∈ memory.keys :=
        mem_keys_insert
      rw [ih, added, List.exists_mem_cons_iff, eq_comm (a := wanted)]
      tauto

/-- The keys ascend by their octets in UTF-8. -/
theorem keys_ascend {memory : Memory} (ascends : Ascends memory.entries) :
    memory.keys.Pairwise fun key next => Text.bytes key < Text.bytes next := by
  apply List.Pairwise.map
  · intro entry next lt
    exact Text.bytes_lt_iff.mpr lt
  · exact ascends

/-! ## Questions and answers -/

inductive Query where
  | get (key : String)
  | keys
  | size
  | isEmpty

inductive Answer where
  | outcome (outcome : Except StorageFault Unit)
  | data (data : List Bytes)
  | keys (keys : List String)
  | count (count : Nat)
  | flag (flag : Bool)

/-- What is done with memory: an offer is added, under a key of either kind, or a question is asked. -/
inductive Use where
  | add (offer : Offer)
  | ask (query : Query)

def answer (memory : Memory) : Query → Answer
  | .get key => .data (memory.get key)
  | .keys => .keys memory.keys
  | .size => .count memory.size
  | .isEmpty => .flag memory.isEmpty

namespace Use

def make (memory : Memory) : Use → Answer × Memory
  | .add offer =>
    let (outcome, memory) := Storage.add offer memory
    (.outcome outcome, memory)
  | .ask query => (memory.answer query, memory)

/-- Some uses one after the other, with what each is answered. -/
def makeAll : List Use → Memory → List Answer × Memory
  | [], memory => ([], memory)
  | use :: uses, memory =>
    let (answer, memory) := use.make memory
    let (answers, memory) := makeAll uses memory
    (answer :: answers, memory)

/-- The offers among some uses. -/
def offersOf (uses : List Use) : List Offer :=
  uses.filterMap fun
    | .add offer => some offer
    | .ask _ => none

end Use

/-- What a question is to be answered after the offers of a history, whose order decides that of the data. -/
inductive Told (history : List Offer) : Query → Answer → Prop where
  | get (key : String) : Told history (.get key) (.data (under key history))
  | keys {keys : List String} (ascend : keys.Pairwise fun key next => Text.bytes key < Text.bytes next)
      (used : ∀ key, key ∈ keys ↔ ∃ offer ∈ history, offer.key = key) : Told history .keys (.keys keys)
  | size : Told history .size (.count history.length)
  | isEmpty : Told history .isEmpty (.flag (decide (history = [])))

/-- Whether some uses are answered from the history in front of them, to which each offer is added. -/
inductive Tells : List Offer → List Use → List Answer → Prop where
  | nil (history : List Offer) : Tells history [] []
  | add {history : List Offer} {uses : List Use} {answers : List Answer} (offer : Offer)
      (further : Tells (history ++ [offer]) uses answers) :
      Tells history (.add offer :: uses) (.outcome (.ok ()) :: answers)
  | ask {history : List Offer} {uses : List Use} {answers : List Answer} {query : Query} {answer : Answer}
      (told : Told history query answer) (further : Tells history uses answers) :
      Tells history (.ask query :: uses) (answer :: answers)

theorem told_answer (history : List Offer) (query : Query) :
    Told history query ((Storage.addAll history empty).answer query) := by
  cases query with
  | get key =>
      rw [answer, get_addAll_empty]
      exact .get key
  | keys =>
      apply Told.keys
      · exact keys_ascend (ascends_addAll_empty history)
      · intro key
        exact mem_keys_addAll.trans (or_iff_right List.not_mem_nil)
  | size =>
      rw [answer, size_addAll_empty]
      exact .size
  | isEmpty =>
      have flag : (Storage.addAll history empty).isEmpty = decide (history = []) := by
        rw [isEmpty, size_addAll_empty]
        cases history <;> rfl
      rw [answer, flag]
      exact .isEmpty

theorem tells_makeAll (history : List Offer) (uses : List Use) :
    Tells history uses (Use.makeAll uses (Storage.addAll history empty)).1 := by
  induction uses generalizing history with
  | nil => exact .nil history
  | cons use uses ih =>
      cases use with
      | add offer =>
          have later := ih (history ++ [offer])
          rw [Storage.addAll_append] at later
          exact .add offer later
      | ask query => exact .ask (told_answer history query) (ih history)

/-- Questions leave no trace in memory. -/
theorem memory_makeAll (uses : List Use) (memory : Memory) :
    (Use.makeAll uses memory).2 = Storage.addAll (Use.offersOf uses) memory := by
  induction uses generalizing memory with
  | nil => rfl
  | cons use uses ih =>
      cases use with
      | add offer => exact ih (memory.add offer.key offer.data)
      | ask query => exact ih memory

/-- Whatever is added to empty memory and asked of it, everything is answered from the offers before it, in their
order; memory is left as the offers alone leave it, and it counts as many pieces of data as it holds under its keys. -/
theorem multimap_of_uses (uses : List Use) :
    let used := Use.makeAll uses empty
    Tells [] uses used.1 ∧
      used.2 = Storage.addAll (Use.offersOf uses) empty ∧
      used.2.size = (used.2.keys.map fun key => (used.2.get key).length).sum := by
  intro used
  have memory : used.2 = Storage.addAll (Use.offersOf uses) empty := memory_makeAll uses empty
  refine ⟨tells_makeAll [] uses, memory, ?_⟩
  apply size_eq_sum_get
  rw [memory]
  exact ascends_addAll_empty _

end LdapDecoy.Storage.Memory
