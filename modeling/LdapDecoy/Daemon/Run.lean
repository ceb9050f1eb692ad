import LdapDecoy.Daemon.CommandLine
import LdapDecoy.Server.Start
import LdapDecoy.Storage.Store

/-!
# The daemon

What a run of the daemon prints, and the code it exits with. Help and the version are printed as they are;
everything else on standard output is logged, as far as the configured level lets it through.
-/
namespace LdapDecoy.Daemon
open Config (Configuration Settings LogLevel)

/-- What the daemon finds around it. -/
structure Surroundings where
  /-- The variable that names the configuration file. -/
  variableValue : Option String
  tree : Os.Files
  bind : Server.Binder
  /-- A token for a configuration that sets none. -/
  generated : String
  time : String

structure Report where
  code : Nat
  lines : List String
  deriving DecidableEq, Repr

def versionLine : String := Invocation.programName ++ " 0.1.0"

/-- Where the configuration file is: where an option says, or else a variable, or else in its usual place. -/
def configurationFile (path variableValue : Option String) : String :=
  (path.or variableValue).getD "/etc/ldapcatch/server.toml"

/-- The level of an event in the place of its tag. -/
def levelTag : Level → String
  | .error => "error"
  | .warn => "warn"
  | .info => "info"
  | .debug => "debug"
  | .trace => "trace"

/-- A value under its name, as it stands behind a message. -/
def shownField (field : String × String) : String := " | " ++ field.1 ++ ": " ++ field.2

/-- An event as it is logged. -/
def line (event : Event) : String :=
  event.level.name ++ " [" ++ (event.tag.map Tag.pretty).getD (levelTag event.level) ++ "]: " ++
    event.message ++ String.join (event.fields.map shownField)

/-- Events that say so much that none is ever logged. -/
def isTrace (event : Event) : Bool := event.level = .trace

/-- Some events as they are logged at a level. -/
def logged (level : LogLevel) (events : List Event) : List String :=
  (events.filter fun event => level.admits event && !isTrace event).map line

/-- The report of events that are logged at a level. -/
def Report.of (level : LogLevel) (code : Nat) (events : List Event) : Report :=
  ⟨code, logged level events⟩

def info (message : String) : Event := .plain .info message

def error (message : String) : Event := .plain .error message

/-- What is said about the configuration before anything is done with it. -/
def greeting (path : String) (configuration : Configuration) : List Event :=
  [info ("Using config file " ++ Text.quoted path), info configuration.display]

/-- Whether the configured certificate can be used, and what is logged about it. -/
def testCertificate (tree : Os.Files) (configuration : Configuration) : Nat × List Event :=
  match configuration.tls with
  | none => (0, [info "Configuration is valid"])
  | some provider =>
    match provider.certificate tree with
    | (.error _, events) => (1, events ++ [error "Unable to load the configured TLS certificate"])
    | (.ok _, events) => (0, events ++ [info "Configuration is valid"])

/-- From the signal to stop to the end. -/
def stopping : List Event :=
  [info "Signal received, shutting down", Server.stopped, info "Stopped 🛑 "]

/-- What is said about where records go. -/
def recording (configuration : Configuration) : Event :=
  match configuration.interactionLog with
  | some path => Event.tagged .adminInfo "Recording interactions to file" |>.also "path" path
  | none => .tagged .adminWarn "No interaction_log configured, interactions are only kept in memory"

/-- A server that listens, with its store. -/
structure Running where
  listener : Server.Listener
  store : Storage.Store

/-- What has come of launching a server, and what was logged meanwhile. -/
structure Launch where
  result : Except StartFault Running
  events : List Event

/-- Opens the configured store and starts a server over it. -/
def launch (surroundings : Surroundings) (configuration : Configuration) : Launch :=
  let beginning := info "Running in server mode ..."
  match Storage.Store.open? surroundings.tree configuration.interactionLog with
  | .error fault => ⟨.error (.storage fault), [beginning, error "Unable to open interaction storage"]⟩
  | .ok store =>
    let started :=
      Server.start surroundings.bind surroundings.tree configuration surroundings.time store
    let events := beginning :: recording configuration :: Act.events started.acts
    match started.result with
    | .error fault => ⟨.error fault, events ++ [error "Failed to start server core!"]⟩
    | .ok listener => ⟨.ok ⟨listener, started.storage⟩, events⟩

/-- Runs a server until it is told to stop. -/
def serve (surroundings : Surroundings) (configuration : Configuration) : Nat × List Event :=
  let launched := launch surroundings configuration
  match launched.result with
  | .error _ => (1, launched.events)
  | .ok _ => (0, launched.events ++ stopping)

/-- What the arguments come to. -/
inductive Errand where
  /-- Nothing but a report is left to do. -/
  | report (report : Report)
  | test (path : String) (configuration : Configuration)
  | serve (path : String) (configuration : Configuration)

namespace Errand

/-- The errand over the configuration in a file. A file that cannot be read is not worth a line of the log. -/
def ofFile (surroundings : Surroundings) (path : String) (errand : String → Configuration → Errand) :
    Errand :=
  match Settings.read surroundings.tree path with
  | .error _ => report ⟨1, []⟩
  | .ok settings =>
    match Configuration.ofSettings settings surroundings.generated with
    | .error fault =>
      report (.of (settings.logLevel.getD LogLevel.default) 1 [error fault.message])
    | .ok configuration => errand path configuration

def ofArguments (surroundings : Surroundings) (arguments : List String) : Errand :=
  let file := fun path => configurationFile path surroundings.variableValue
  match Invocation.ofArguments arguments with
  | .misuse => report ⟨2, []⟩
  | .help topic => report ⟨0, topic.lines surroundings.variableValue⟩
  | .run .version _ => report ⟨0, [versionLine]⟩
  | .run .configtest path => ofFile surroundings (file path) test
  | .run .server path => ofFile surroundings (file path) serve

end Errand

/-- Runs the daemon. -/
def run (surroundings : Surroundings) (arguments : List String) : Report :=
  match Errand.ofArguments surroundings arguments with
  | .report report => report
  | .test path configuration =>
    let (code, events) := testCertificate surroundings.tree configuration
    .of configuration.logLevel code (greeting path configuration ++ events)
  | .serve path configuration =>
    let (code, events) := serve surroundings configuration
    .of configuration.logLevel code (greeting path configuration ++ events)

end LdapDecoy.Daemon
