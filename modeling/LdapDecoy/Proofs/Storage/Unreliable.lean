import LdapDecoy.Storage.Store

/-!
# Storage that fails

A store with faults that are laid down beforehand, call by call and in any pattern. A call with a fault does not
reach what is held; the others are answered by the store itself, and none of the stores changes when it refuses. An
append that fails half-way, and leaves the beginning of a line in its file, is not among these faults: a file takes
all of an entry or nothing of it.
-/
namespace LdapDecoy.Storage

/-- A store that an offer which it refuses leaves as it was. -/
class Steady (τ : Type) [Storage τ] : Prop where
  add_error : ∀ {offer : Offer} {storage behind : τ} {fault : StorageFault},
    Storage.add offer storage = (.error fault, behind) → behind = storage

instance : Steady Memory where
  add_error refused := nomatch congrArg Prod.fst refused

instance : Steady Journal where
  add_error {offer journal behind fault} refused := by
    change Journal.add offer.key offer.data journal = _ at refused
    unfold Journal.add at refused
    split at refused
    · exact (congrArg Prod.snd refused).symm
    · cases congrArg Prod.fst refused

instance : Steady Store where
  add_error {offer store behind fault} refused := by
    cases store with
    | memory held => cases congrArg Prod.fst refused
    | journal file =>
        rcases added : Storage.add offer file with ⟨outcome, file'⟩
        change Store.add offer (.journal file) = _ at refused
        rw [Store.add, added] at refused
        cases refused
        rw [Steady.add_error added]

/-- A store with the faults of the calls to come; behind the list no call has one. -/
structure Unreliable (τ : Type) where
  held : τ
  faults : List (Option StorageFault)

variable {τ : Type} [Storage τ]

instance : Storage (Unreliable τ) where
  add offer storage :=
    match storage.faults.head?.join with
    | some fault => (.error fault, ⟨storage.held, storage.faults.tail⟩)
    | none =>
      let (outcome, held) := Storage.add offer storage.held
      (outcome, ⟨held, storage.faults.tail⟩)

/-- A call is refused and changes nothing that is held, or it has reached the store. -/
theorem Unreliable.add_cases [Steady τ] (offer : Offer) (storage : Unreliable τ) :
    (∃ fault, Storage.add offer storage = (.error fault, ⟨storage.held, storage.faults.tail⟩)) ∨
    ∃ held, Storage.add offer storage.held = (.ok (), held) ∧
      Storage.add offer storage = (.ok (), ⟨held, storage.faults.tail⟩) := by
  cases planned : storage.faults.head?.join with
  | some fault =>
      refine .inl ⟨fault, ?_⟩
      simp only [Storage.add, planned]
  | none =>
      have reaches : Storage.add offer storage =
          ((Storage.add offer storage.held).1, ⟨(Storage.add offer storage.held).2, storage.faults.tail⟩) := by
        simp only [Storage.add, planned]
      rw [reaches]
      rcases answer : Storage.add offer storage.held with ⟨fault | _, held⟩
      · rw [Steady.add_error answer]
        exact .inl ⟨fault, rfl⟩
      · exact .inr ⟨held, rfl, rfl⟩

end LdapDecoy.Storage
