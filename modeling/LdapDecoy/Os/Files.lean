import LdapDecoy.Os.Failure
import LdapDecoy.Text.Utf8

/-!
# Files

A file tree as far as the program needs one: which directories there are, and what the files hold. A path
is followed name by name, and every name but the last must be a directory; a slash behind the last name
says that it must be one too.
-/
namespace LdapDecoy.Os

/-- The names on the way from the root directory, which is the empty path. -/
abbrev Path := List String

structure Files where
  /-- The directory in which paths begin that do not begin at the root. -/
  start : Path
  directories : List Path
  files : List (Path × Bytes)
  deriving DecidableEq, Repr

/-- What stands at a place in a file tree. -/
inductive Entry where
  | directory
  | file (content : Bytes)
  deriving DecidableEq, Repr

/-- Where a path leads. -/
inductive Target where
  /-- To a directory on the way, and no further. -/
  | directory (place : Path)
  /-- To a name in a directory; with a slash behind it only a directory can be meant. -/
  | name (place : Path) (hasSlash : Bool)
  deriving DecidableEq, Repr

/-- The most octets of a name. -/
def longestName : Nat := 255

/-- The most octets of a path. -/
def longestPath : Nat := 4095

/-- The names in a path; empty names lead nowhere. -/
def names (path : String) : List String := (path.splitOn "/").filter fun name => name ≠ ""

/-- Where a name leads from a directory. -/
def step (here : Path) (name : String) : Path :=
  if name = "." then here else if name = ".." then here.dropLast else here ++ [name]

namespace Files

/-- A tree without anything, not even a root. -/
def nothing : Files := ⟨[], [], []⟩

/-- A tree without files in which paths begin in a directory. -/
def startingAt (start : Path) : Files := ⟨start, [[], start], []⟩

/-- A tree without files, in which the named directories stand below the root, where paths begin. -/
def ofDirectories (names : List String) : Files := ⟨[], [] :: names.map fun name => [name], []⟩

/-- What stands at a place whose last name has yet to be looked up. -/
def look (tree : Files) (place : Path) : Except Failure (Option Entry) :=
  if longestName < (place.getLast?.getD "").utf8ByteSize then .error nameTooLong
  else if tree.directories.contains place then .ok (some .directory)
  else .ok ((tree.files.lookup place).map .file)

/-- Goes from a directory into another one. -/
def enter (tree : Files) (here : Path) (name : String) : Except Failure Path :=
  if name = "." ∨ name = ".." then .ok (step here name)
  else
    match tree.look (step here name) with
    | .error failure => .error failure
    | .ok none => .error noSuchFile
    | .ok (some (.file _)) => .error notADirectory
    | .ok (some .directory) => .ok (step here name)

/-- Follows the names from a directory on. -/
def follow (tree : Files) (hasSlash : Bool) (here : Path) : List String → Except Failure Target
  | [] => .ok (.directory here)
  | [last] =>
    .ok (if last = "." ∨ last = ".." then .directory (step here last)
      else .name (step here last) hasSlash)
  | name :: rest =>
    match tree.enter here name with
    | .error failure => .error failure
    | .ok next => tree.follow hasSlash next rest

/-- The directory in which a path begins. -/
def origin (tree : Files) (path : String) : Path := if path.startsWith "/" then [] else tree.start

def locate (tree : Files) (path : String) : Except Failure Target :=
  if path.any (· = '\x00') then .error nulInName
  else if path = "" then .error noSuchFile
  else if longestPath < path.utf8ByteSize then .error nameTooLong
  else if tree.directories.contains (tree.origin path) then
    tree.follow (path.endsWith "/") (tree.origin path) (names path)
  else .error noSuchFile

/-- What a file holds. -/
def read (tree : Files) (path : String) : Except Failure Bytes := do
  match ← tree.locate path with
  | .directory _ => .error isADirectory
  | .name place hasSlash =>
    match ← tree.look place with
    | none => .error noSuchFile
    | some .directory => .error isADirectory
    | some (.file content) => if hasSlash then .error notADirectory else .ok content

/-- What a file holds to which more will be appended; a file that is missing begins empty. -/
def openToAppend (tree : Files) (path : String) : Except Failure Bytes := do
  match ← tree.locate path with
  | .directory _ | .name _ true => .error isADirectory
  | .name place false =>
    match ← tree.look place with
    | none => .ok []
    | some .directory => .error isADirectory
    | some (.file content) => .ok content

/-- The tree with a file added or replaced. -/
def put (tree : Files) (path : String) (content : Bytes) : Files :=
  match tree.locate path with
  | .ok (.name place _) =>
    { tree with files := (place, content) :: tree.files.filter fun entry => entry.1 ≠ place }
  | _ => tree

/-- The directories that are passed when names are followed. -/
def passed (here : Path) : List String → List Path
  | [] | [_] => [here]
  | name :: rest => here :: passed (step here name) rest

/-- The tree with a file, and with the directories on the way to it. -/
def provide (tree : Files) (path : String) (content : Bytes) : Files :=
  { tree with directories := passed (tree.origin path) (names path) ++ tree.directories }.put path content

end Files

end LdapDecoy.Os
