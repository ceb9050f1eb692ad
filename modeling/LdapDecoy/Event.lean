/-!
# Events

What the program logs: a message with a level and, for most events, a tag that says which part of the
program raised it. Some events name values behind their message. Tags have numbers, under which log collectors know them.
-/
namespace LdapDecoy

inductive Level where
  | error
  | warn
  | info
  | debug
  | trace
  deriving DecidableEq, Repr

def Level.name : Level → String
  | .error => "ERROR"
  | .warn => "WARN"
  | .info => "INFO"
  | .debug => "DEBUG"
  | .trace => "TRACE"

/-- How much is logged at a level: the higher, the rarer. -/
def Level.verbosity : Level → Nat
  | .error => 0
  | .warn => 1
  | .info => 2
  | .debug => 3
  | .trace => 4

inductive Tag where
  | adminDebug
  | adminError
  | adminWarn
  | adminInfo
  | requestError
  | requestWarn
  | requestInfo
  | requestTrace
  | securityInfo
  | securityError
  /-- A captured interaction, as it is handed to storage. -/
  | interactionDebug
  | interactionWarn
  deriving DecidableEq, Repr

namespace Tag

/-- All tags, in the order of their numbers. -/
def all : List Tag :=
  [adminDebug, adminError, adminWarn, adminInfo, requestError, requestWarn, requestInfo, requestTrace,
    securityInfo, securityError, interactionDebug, interactionWarn]

def number : Tag → Nat
  | adminDebug => 0
  | adminError => 1
  | adminWarn => 2
  | adminInfo => 3
  | requestError => 4
  | requestWarn => 5
  | requestInfo => 6
  | requestTrace => 7
  | securityInfo => 8
  | securityError => 9
  | interactionDebug => 10
  | interactionWarn => 11

def ofNumber? (n : Nat) : Option Tag := all[n]?

theorem ofNumber?_number (tag : Tag) : ofNumber? tag.number = some tag := by
  cases tag <;> rfl

/-- Why a number names no tag. -/
def unknownMessage (n : Nat) : String :=
  s!"No discriminant in enum `EventTag` matches the value `{n}`"

/-- The part of the program and the level, with a point between them. -/
def pretty : Tag → String
  | adminDebug => "admin.debug"
  | adminError => "admin.error"
  | adminWarn => "admin.warn"
  | adminInfo => "admin.info"
  | requestError => "request.error"
  | requestWarn => "request.warn"
  | requestInfo => "request.info"
  | requestTrace => "request.trace"
  | securityInfo => "security.info"
  | securityError => "security.error"
  | interactionDebug => "interaction.debug"
  | interactionWarn => "interaction.warn"

def icon : Tag → Char
  | adminDebug => '🐛'
  | adminError | requestError => '🚨'
  | adminWarn | requestWarn | interactionWarn => '⚠'
  | adminInfo | requestInfo => 'ℹ'
  | requestTrace => '📍'
  | securityInfo => '🔓'
  | securityError => '🔐'
  | interactionDebug => '🎣'

/-- The level at which events with the tag are raised. -/
def level : Tag → Level
  | adminDebug | interactionDebug => .debug
  | adminError | requestError | securityError => .error
  | adminWarn | requestWarn | interactionWarn => .warn
  | adminInfo | requestInfo | securityInfo => .info
  | requestTrace => .trace

end Tag

structure Event where
  level : Level
  tag : Option Tag
  message : String
  /-- What is said behind the message, each thing under a name. -/
  fields : List (String × String)
  deriving DecidableEq, Repr

namespace Event

/-- An event with a tag, at the tag's level. -/
def tagged (tag : Tag) (message : String) : Event := ⟨tag.level, some tag, message, []⟩

def plain (level : Level) (message : String) : Event := ⟨level, none, message, []⟩

/-- An event that names its tag by number; a number without a tag leaves it untagged. -/
def numbered (level : Level) (number : Nat) (message : String) : Event :=
  ⟨level, Tag.ofNumber? number, message, []⟩

/-- The event with one more thing said behind its message. -/
def also (event : Event) (name value : String) : Event :=
  { event with fields := event.fields ++ [(name, value)] }

end Event

end LdapDecoy
