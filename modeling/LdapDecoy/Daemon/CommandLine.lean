/-!
# The command line

What the arguments of the daemon ask for. Arguments are read from left to right, and the first one that asks
for help or is wrong decides.
-/
namespace LdapDecoy.Daemon

inductive Command where
  | server
  | configtest
  | version
  deriving DecidableEq, Repr

namespace Command

def all : List Command := [server, configtest, version]

def name : Command → String
  | server => "server"
  | configtest => "configtest"
  | version => "version"

def about : Command → String
  | server => "Start the LDAP responder"
  | configtest => "Load and check the configuration, without starting the listener"
  | version => "Print the version and exit"

def ofName? (s : String) : Option Command := all.find? fun command => command.name = s

end Command

/-- What help can be about. -/
inductive Topic where
  | program
  | command (command : Command)
  | help
  deriving DecidableEq, Repr

inductive Invocation where
  /-- A command, with the configuration file it names. -/
  | run (command : Command) (path : Option String)
  | help (topic : Topic)
  /-- Arguments that are wrong, or none. -/
  | misuse
  deriving DecidableEq, Repr

namespace Invocation

def programName : String := "ldapcatchd"

def helpAbout : String := "Print this message or the help of the given subcommand(s)"

/-- Whether an argument is an option, and so no option's value. A hyphen by itself is a value. -/
def isOption (argument : String) : Bool :=
  argument.startsWith "-" && argument ≠ "-"

/-- Reads the arguments of a command, `path` being the file that has been named so far. -/
def options (command : Command) (path : Option String) : List String → Invocation
  | [] => run command path
  | argument :: rest =>
    if argument = "--" then if rest.isEmpty then run command path else misuse
    else if argument = "--help" then help (.command command)
    else if argument = "-c" ∨ argument = "--config" then
      match rest with
      | [] => misuse
      | value :: rest =>
        if path.isSome || value.isEmpty || isOption value then misuse
        else options command (some value) rest
    else
      match argument.toList with
      | '-' :: 'h' :: _ => help (.command command)
      | '-' :: 'c' :: '=' :: value | '-' :: 'c' :: value
      | '-' :: '-' :: 'c' :: 'o' :: 'n' :: 'f' :: 'i' :: 'g' :: '=' :: value =>
        if path.isSome || value.isEmpty then misuse
        else options command (some (String.ofList value)) rest
      | _ => misuse

/-- Reads what stands behind the word `help`. -/
def helpTopic : List String → Invocation
  | [] => help .program
  | [name] =>
    match Command.ofName? name with
    | some command => help (.command command)
    | none => if name = "help" then help .help else misuse
  | _ => misuse

/-- Reads the arguments of the daemon. -/
def ofArguments : List String → Invocation
  | [] => misuse
  | argument :: rest =>
    if argument = "help" then helpTopic rest
    else if argument = "--help" then help .program
    else
      match Command.ofName? argument, argument.toList with
      | some command, _ => options command none rest
      | none, '-' :: 'h' :: _ => help .program
      | none, _ => misuse

end Invocation

namespace Topic

/-- Names and their descriptions, the descriptions below one another. -/
def table (rows : List (String × String)) : List String :=
  let width := (rows.map fun row => row.1.length).foldl max 0
  rows.map fun (name, description) =>
    "  " ++ name ++ String.ofList (List.replicate (width - name.length + 2) ' ') ++ description

/-- The option that every command has, with the value of its variable in the environment. -/
def configOption (variableValue : Option String) : String × String :=
  ("-c, --config <CONFIG_PATH>",
    "Path to the server's configuration file [env: LDAPCATCH_CONFIG=" ++ variableValue.getD "" ++ "]")

def helpOption : String × String := ("-h, --help", "Print help")

/-- The lines of a help text. -/
def lines (variableValue : Option String) : Topic → List String
  | program =>
    ["Usage: " ++ Invocation.programName ++ " <COMMAND>", "", "Commands:"] ++
      table ((Command.all.map fun c => (c.name, c.about)) ++ [("help", Invocation.helpAbout)]) ++
      ["", "Options:"] ++ table [helpOption]
  | command c =>
    [c.about, "", "Usage: " ++ Invocation.programName ++ " " ++ c.name ++ " [OPTIONS]", "", "Options:"] ++
      table [configOption variableValue, helpOption]
  | help =>
    [Invocation.helpAbout, "", "Usage: " ++ Invocation.programName ++ " help [COMMAND]...", "",
      "Arguments:"] ++ table [("[COMMAND]...", "Print help for the subcommand(s)")]

end Topic

end LdapDecoy.Daemon
