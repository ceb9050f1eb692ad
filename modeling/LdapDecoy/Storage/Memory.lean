import LdapDecoy.Storage.Basic

/-!
# Storage in memory

An ordered multimap: under each key the data added there, oldest first, and the keys ascending. The order
of texts by code points is that of their octets in UTF-8.
-/
namespace LdapDecoy.Storage

structure Memory where
  entries : List (String × List Bytes)
  deriving DecidableEq, Repr

namespace Memory

def empty : Memory := ⟨[]⟩

/-- Adds data under a key, in front of the first larger key where the key is new. -/
def insert (key : String) (data : Bytes) : List (String × List Bytes) → List (String × List Bytes)
  | [] => [(key, [data])]
  | (k, held) :: rest =>
    if key = k then (k, held ++ [data]) :: rest
    else if key < k then (key, [data]) :: (k, held) :: rest
    else (k, held) :: insert key data rest

def add (key : String) (data : Bytes) (memory : Memory) : Memory := ⟨insert key data memory.entries⟩

/-- The data under a key, oldest first. -/
def get (memory : Memory) (key : String) : List Bytes := (memory.entries.lookup key).getD []

def keys (memory : Memory) : List String := memory.entries.map (·.1)

/-- How many pieces of data there are under all keys. -/
def size (memory : Memory) : Nat := memory.entries.foldr (fun entry n => entry.2.length + n) 0

def isEmpty (memory : Memory) : Bool := memory.size == 0

end Memory

/-- Memory refuses nothing, and keeps both kinds of keys in one table. -/
instance : Storage Memory where
  add offer memory := (.ok (), memory.add offer.key offer.data)

end LdapDecoy.Storage
