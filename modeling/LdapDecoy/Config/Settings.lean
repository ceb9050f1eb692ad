import LdapDecoy.Config.LogLevel
import LdapDecoy.Config.Toml
import LdapDecoy.Os.Files

/-!
# Settings

What a configuration file says, before defaults are applied and values are checked. Every name is known,
stands there once, and has a value of its kind; only the domain must be there.
-/
namespace LdapDecoy.Config

structure Settings where
  /-- The root domain under which probes place their identifiers. -/
  domain : String
  bindAddress : Option String
  /-- The key of records without an identifier. -/
  token : Option String
  tlsChain : Option String
  tlsKey : Option String
  /-- The file that records are appended to. -/
  interactionLog : Option String
  logLevel : Option LogLevel
  deriving DecidableEq, Repr

namespace Settings

/-- The names that a configuration file can set. -/
def names : List String :=
  ["domain", "ldapbindaddress", "token", "tls_chain", "tls_key", "interaction_log", "log_level"]

/-- What a list of assignments gives a name. -/
def find? (name : String) (assignments : List Toml.Assignment) : Option Toml.Value :=
  (assignments.find? fun assignment => assignment.name = name).map (·.value)

/-- A text, if one is set; none at the outer level where something else is set. -/
def text? (name : String) (assignments : List Toml.Assignment) : Option (Option String) :=
  match find? name assignments with
  | none => some none
  | some (.text s) => some (some s)
  | some (.choice _) => none

def level? (name : String) (assignments : List Toml.Assignment) : Option (Option LogLevel) :=
  match find? name assignments with
  | none => some none
  | some (.text s) | some (.choice s) => (LogLevel.ofName? s).map some

/-- Whether all names are known and none is set twice. -/
def areProper (assignments : List Toml.Assignment) : Bool :=
  let found := assignments.map (·.name)
  found.all names.contains && decide found.Nodup

def ofAssignments? (assignments : List Toml.Assignment) : Option Settings := do
  if !areProper assignments then none
  let domain ← (← text? "domain" assignments)
  return {
    domain
    bindAddress := ← text? "ldapbindaddress" assignments
    token := ← text? "token" assignments
    tlsChain := ← text? "tls_chain" assignments
    tlsKey := ← text? "tls_key" assignments
    interactionLog := ← text? "interaction_log" assignments
    logLevel := ← level? "log_level" assignments }

/-- Why there are no settings at a path. -/
inductive ReadFault where
  | system (cause : Os.Failure)
  | notText
  | malformed
  deriving DecidableEq, Repr

/-- The settings that octets spell. -/
def ofBytes (content : Bytes) : Except ReadFault Settings :=
  match Text.Utf8.decode? content with
  | none => .error .notText
  | some chars =>
    match Toml.assignments chars >>= ofAssignments? with
    | none => .error .malformed
    | some settings => .ok settings

/-- The settings in a file. -/
def read (tree : Os.Files) (path : String) : Except ReadFault Settings :=
  match tree.read path with
  | .error cause => .error (.system cause)
  | .ok content => ofBytes content

end Settings

end LdapDecoy.Config
