import LdapDecoy.Event

/-!
# Log levels

The levels that a configuration can ask for, and which events each of them lets through.
-/
namespace LdapDecoy.Config

inductive LogLevel where
  | info
  | debug
  | trace
  deriving DecidableEq, Repr

namespace LogLevel

def default : LogLevel := info

def name : LogLevel → String
  | info => "info"
  | debug => "debug"
  | trace => "trace"

def ofName? (s : String) : Option LogLevel :=
  if s = "info" then some info
  else if s = "debug" then some debug
  else if s = "trace" then some trace
  else none

theorem ofName?_name (level : LogLevel) : ofName? level.name = some level := by
  cases level <;> rfl

/-- Why a text names no level. -/
def unknownMessage : String := "Must be one of info, debug, trace"

/-- The rarest events that a level lets through. -/
def threshold : LogLevel → Level
  | info => .info
  | debug => .debug
  | trace => .trace

def admits (level : LogLevel) (event : Event) : Bool :=
  event.level.verbosity ≤ level.threshold.verbosity

end LogLevel

end LdapDecoy.Config
