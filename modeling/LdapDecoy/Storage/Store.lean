import LdapDecoy.Storage.Journal
import LdapDecoy.Storage.Memory

/-!
# Stores

The store of a running daemon: a file where one is configured, and memory otherwise.
-/
namespace LdapDecoy.Storage

inductive Store where
  | memory (memory : Memory)
  | journal (journal : Journal)
  deriving DecidableEq, Repr

namespace Store

/-- The store for a configured file, or for none. -/
def open? (tree : Os.Files) : Option String → Except StorageFault Store
  | none => .ok (memory .empty)
  | some path => (Journal.open? tree path).map journal

def add (offer : Offer) : Store → Except StorageFault Unit × Store
  | memory held =>
    let (outcome, held) := Storage.add offer held
    (outcome, memory held)
  | journal file =>
    let (outcome, file) := Storage.add offer file
    (outcome, journal file)

/-- What has been added to the file and is not yet in it, and the store that has nothing left to write. -/
def drain : Store → Bytes × Store
  | memory held => ([], memory held)
  | journal file => (file.content, journal { file with content := [] })

end Store

instance : Storage Store where
  add := Store.add

end LdapDecoy.Storage
