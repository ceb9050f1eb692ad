import LdapDecoy.Config.Token
import LdapDecoy.Daemon.Run
import LdapDecoy.Ldap.Encode
import LdapDecoy.Storage.Switched
import Std.Async.Signal
import Std.Async.TCP
import Std.Sync.Mutex

/-!
# The program

The daemon on the files, the sockets and the clock of its machine. Sessions run side by side over one store.
No handshake can be completed here, so that every upgrade ends as if the client had said no hello.
-/
namespace LdapDecoy.Daemon
open Config (Configuration)
open Server (Connection)
open Std.Async
open Std.Net

/-- The tree with those of some files that can be read. -/
def readFiles (tree : Os.Files) (paths : List String) : IO Os.Files :=
  paths.foldlM (fun tree (path : String) => do
    try return tree.provide path (← IO.FS.readBinFile path).toList
    catch _ => return tree) tree

/-- The files of a certificate. -/
def certificatePaths (configuration : Configuration) : List String :=
  (configuration.tls.map fun files => [files.chain, files.key]).getD []

/-- The time, as records write it. -/
def now : IO String := do
  let instant := Std.Time.DateTime.ofTimestamp (← Std.Time.Timestamp.now) Std.Time.TimeZone.ZoneRules.UTC
  return instant.format "uuuu-MM-dd'T'HH:mm:ss.SSSSSSSSS'Z'"

def say (lines : List String) : IO Unit := do
  let output ← IO.getStdout
  lines.forM output.putStrLn
  output.flush

def socketAddress (endpoint : Net.Endpoint) : SocketAddress :=
  match endpoint.address with
  | .v4 a b c d => .v4 ⟨.ofParts a b c d, endpoint.port⟩
  | .v6 groups =>
    .v6 ⟨⟨.ofFn fun i => groups.getD i 0⟩, endpoint.port⟩

def socketEndpoint : SocketAddress → Net.Endpoint
  | .v4 ⟨address, port⟩ =>
    let octets := address.octets
    ⟨.v4 octets[0] octets[1] octets[2] octets[3], port, 0⟩
  | .v6 ⟨address, port⟩ => ⟨.v6 address.segments.toList, port, 0⟩

/-- What the sessions of a running server share. -/
structure Shared where
  configuration : Configuration
  listener : Server.Listener
  store : Std.Mutex Storage.Store
  /-- The file behind the store, if there is one. -/
  file : Option IO.FS.Handle

namespace Shared

def log (shared : Shared) (acts : List Act) : IO Unit :=
  say (logged shared.configuration.logLevel (Act.events acts))

/-- The responder, with the time. -/
def responder (shared : Shared) : IO Responder := do
  let fixed := shared.listener.responder
  return { fixed with recorder := { fixed.recorder with time := ← now } }

/-- Takes a step over the store. What cannot be written to the file has been refused. -/
def commit {α : Type} (shared : Shared)
    (step : Storage.Switched Storage.Store → α × Storage.Switched Storage.Store) : IO α :=
  shared.store.atomically do
    let before ← get
    let (answer, after) := step ⟨before, false⟩
    let (added, store) := after.inner.drain
    try
      if let some file := shared.file then
        file.write ⟨added.toArray⟩
        file.flush
      set store
      return answer
    catch _ => return (step ⟨before, true⟩).1

/-- Records something about a connection. -/
def record (shared : Shared)
    (step : Responder → Storage.Switched Storage.Store → List Act × Storage.Switched Storage.Store) :
    IO Unit := do
  let responder ← shared.responder
  shared.log (← shared.commit (step responder))

/-- Writes replies in order, and says how far that went. -/
def send (client : TCP.Socket.Client) (replies : List Ldap.Reply) : Async Responder.Outlet := do
  let mut sent := 0
  for reply in replies do
    try client.send ⟨reply.encode.toArray⟩
    catch failure => return .failing sent (.codec (toString failure))
    sent := sent + 1
  return .working

/-- Takes the turn of an item, and says whether the session goes on. Replies do not depend on the store, so
that they are found over an empty one, and written before anything is recorded. -/
def turn (shared : Shared) (client : TCP.Socket.Client) (item : Connection.Item)
    (connection : Connection) : Async (Connection × Bool) := do
  let responder ← shared.responder
  let tree ← readFiles connection.tree (certificatePaths shared.configuration)
  let connection := { connection with tree }
  let foreseen := (connection.turn responder item Storage.Memory.empty).1
  let connection := { connection with outlet := ← send client (Act.replies foreseen.acts) }
  let (served, goesOn) ← shared.commit fun storage =>
    let (served, goesOn) := connection.turn responder item storage
    ((served, goesOn), served.storage)
  shared.log served.acts
  return (served.connection, goesOn)

/-- Serves a client until its session ends. -/
def serve (shared : Shared) (client : TCP.Socket.Client) : Async Unit := do
  let remote := socketEndpoint (← client.getPeerName)
  let mut connection := Connection.fresh remote shared.listener.upgrader (.ofDirectories []) []
  let mut hasEnded := false
  let mut goesOn := true
  shared.record connection.greet
  while goesOn do
    if !hasEnded && (Ldap.frame connection.buffer) matches .incomplete then
      match ← (try client.recv? 8192 catch _ => pure none) with
      | some octets => connection := connection.read (.data octets.toList) []
      | none => hasEnded := true
    else
      let (item, rest) := connection.next
      (connection, goesOn) ← shared.turn client item rest
  shared.record connection.dismiss
  try client.shutdown catch _ => pure ()

/-- Accepts clients, each of them served on its own. -/
def accept (shared : Shared) (server : TCP.Socket.Server) : Async Unit := do
  while true do
    background (shared.serve (← server.accept))

end Shared

/-- Waits until the program is asked to stop. -/
def waitForStop : IO Unit := do
  let terminate ← (← Signal.Waiter.mk .sigterm false).wait
  let interrupt ← (← Signal.Waiter.mk .sigint false).wait
  discard <| IO.waitAny [terminate, interrupt]

/-- Binds a socket, and says where it is bound. -/
def bindSocket (server : TCP.Socket.Server) (address : String) : IO (Except Os.Failure Net.Endpoint) := do
  match Net.Endpoint.ofString? address with
  | none => return .error Os.addressNotAvailable
  | some wanted =>
    try
      server.bind (socketAddress wanted)
      server.listen 1024
      return .ok (socketEndpoint (← server.getSockName))
    catch failure => return .error (.text (toString failure))

/-- Runs a server until it is told to stop. -/
def serveClients (surroundings : Surroundings) (path : String) (configuration : Configuration) :
    IO UInt32 := do
  let speak := fun events => say (logged configuration.logLevel events)
  speak (greeting path configuration)
  let file ← configuration.interactionLog.bindM fun log => do
    try return some (← IO.FS.Handle.mk log .append) catch _ => return none
  let tree := match configuration.interactionLog with
    | none => surroundings.tree
    | some log => if file.isSome then surroundings.tree.provide log [] else .nothing
  let server ← TCP.Socket.Server.mk
  let bound ← bindSocket server configuration.address
  let launched := launch { surroundings with tree, bind := fun _ => bound } configuration
  let running ← match launched.result with
    | .error _ =>
      speak launched.events
      return 1
    | .ok running => pure running
  let (added, store) := running.store.drain
  if let some file := file then
    file.write ⟨added.toArray⟩
    file.flush
  let shared : Shared := ⟨configuration, running.listener, ← Std.Mutex.new store, file⟩
  discard (shared.accept server).asTask
  speak launched.events
  waitForStop
  speak stopping
  return 0

/-- Runs the program with its arguments. -/
def runProgram (arguments : List String) : IO UInt32 := do
  let variableValue ← IO.getEnv "LDAPCATCH_CONFIG"
  let generated := Config.Token.ofRandom (← IO.getRandomBytes 16).toList
  let paths := match Invocation.ofArguments arguments with
    | .run _ path => [configurationFile path variableValue]
    | _ => []
  let start := Os.names (← IO.currentDir).toString
  let tree ← readFiles (.startingAt start) paths
  let unbound : Server.Binder := fun _ => .error Os.addressNotAvailable
  let surroundings : Surroundings := ⟨variableValue, tree, unbound, generated, ← now⟩
  match Errand.ofArguments surroundings arguments with
  | .serve path configuration =>
    let tree ← readFiles tree (certificatePaths configuration)
    serveClients { surroundings with tree } path configuration
  | .test _ configuration =>
    let tree ← readFiles tree (certificatePaths configuration)
    let report := run { surroundings with tree } arguments
    say report.lines
    return UInt32.ofNat report.code
  | .report report =>
    say report.lines
    return UInt32.ofNat report.code

end LdapDecoy.Daemon

def main (arguments : List String) : IO UInt32 := LdapDecoy.Daemon.runProgram arguments
