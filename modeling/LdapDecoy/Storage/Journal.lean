import LdapDecoy.Json.Text
import LdapDecoy.Os.Files
import LdapDecoy.Storage.Basic
import LdapDecoy.Text.Blank
import LdapDecoy.Text.Lines

/-!
# Storage in a file

A file to which every accepted record is appended as one JSON object on a line: the key, and the record as
it is written. Data that is not one JSON value is refused and leaves the file as it was.
-/
namespace LdapDecoy.Storage

structure Journal where
  path : String
  content : Bytes
  deriving DecidableEq, Repr

namespace Journal

/-- The journal at a path of a file tree; what the file holds stays in front. -/
def open? (tree : Os.Files) (path : String) : Except StorageFault Journal :=
  match tree.openToAppend path with
  | .error cause => .error (.system cause)
  | .ok content => .ok ⟨path, content⟩

/-- The value in the data of an offer, without what stands around it. -/
def value? (data : Bytes) : Except StorageFault Bytes :=
  match Text.Utf8.decode data with
  | .error fault => .error (.unavailable ("record is not utf-8: " ++ fault.message))
  | .ok chars =>
    let trimmed := Text.Utf8.encode (Text.trimEnd chars)
    match Json.check trimmed with
    | .error fault => .error (.encode fault)
    | .ok () => .ok (trimmed.dropWhile Json.isBlank)

/-- The line of an entry. -/
def line (key : String) (value : Bytes) : Bytes :=
  Text.bytes "\x7b\"key\":" ++ Text.Utf8.encode (Json.text key.toList) ++
    Text.bytes ",\"interaction\":" ++ value ++ Text.bytes "\x7d\n"

def add (key : String) (data : Bytes) (journal : Journal) : Except StorageFault Unit × Journal :=
  match value? data with
  | .error fault => (.error fault, journal)
  | .ok value => (.ok (), { journal with content := journal.content ++ line key value })

/-- The lines of the file. -/
def lines (journal : Journal) : List Bytes := Text.lines journal.content

end Journal

instance : Storage Journal where
  add offer journal := journal.add offer.key offer.data

end LdapDecoy.Storage
