import LdapDecoy.Act
import LdapDecoy.Correlation
import LdapDecoy.Record

/-!
# Recording

Making records and offering them to storage. A record is offered once; when storage refuses it that is
logged, and nothing else comes of it.
-/
namespace LdapDecoy

/-- Who records: the token under which records without an identifier are kept, and the time of the records. -/
structure Recorder where
  token : String
  time : String
  deriving DecidableEq, Repr

namespace Recorder

def captured : Event := .tagged .interactionDebug "LDAP Interaction"

def refused : Event := .tagged .interactionWarn "Could not store ldap interaction"

/-- The offer of a record: under the identifier's key, or under the token. -/
def offer (recorder : Recorder) (subject : Option Correlation.Identifier) (request remote : String) :
    Offer :=
  match subject with
  | some identifier =>
    ⟨.correlation, identifier.key,
      Record.line ⟨identifier.uniqueId, identifier.fullId, request, remote, recorder.time⟩⟩
  | none => ⟨.token, recorder.token, Record.line ⟨"", "", request, remote, recorder.time⟩⟩

/-- What follows an offer that storage has answered. -/
def aftermath : Except StorageFault Unit → List Act
  | .ok () => []
  | .error _ => [.logged refused]

variable {τ : Type} [Storage τ]

/-- Offers a record, logged before and, where storage refuses it, after. -/
def submit (offer : Offer) (storage : τ) : List Act × τ :=
  let (outcome, storage) := Storage.add offer storage
  (.logged captured :: .offered offer outcome :: aftermath outcome, storage)

def record (recorder : Recorder) (subject : Option Correlation.Identifier) (request remote : String)
    (storage : τ) : List Act × τ :=
  submit (recorder.offer subject request remote) storage

/-- Records a diagnostic of the server itself, which has no remote address. -/
def recordInternal (recorder : Recorder) (message : String) (storage : τ) : List Act × τ :=
  recorder.record none message "" storage

/-- How serious a diagnostic is. -/
inductive Severity where
  /-- The listener cannot go on. -/
  | fatal
  /-- The handling of a connection has died. -/
  | panic
  | print
  deriving DecidableEq, Repr

def Severity.tag : Severity → Tag
  | .fatal | .panic => .adminError
  | .print => .adminInfo

/-- Logs a diagnostic and records it. -/
def log (recorder : Recorder) (severity : Severity) (message : String) (storage : τ) : List Act × τ :=
  let (acts, storage) := recorder.recordInternal message storage
  (.logged (.tagged severity.tag message) :: acts, storage)

end Recorder

end LdapDecoy
