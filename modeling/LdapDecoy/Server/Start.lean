import LdapDecoy.Config.Configuration
import LdapDecoy.Server.Session

/-!
# Starting and stopping

The way from a configuration to a server that listens. Every step can fail, and nothing is recorded before
the last one has succeeded; the first record says where the server listens.
-/
namespace LdapDecoy.Server

/-- A server that listens. -/
structure Listener where
  responder : Responder
  upgrader : Tls.Upgrader
  /-- Where the server is bound. -/
  bound : Net.Endpoint
  deriving DecidableEq, Repr

/-- What has come of an attempt to start. -/
structure Started (α τ : Type) where
  result : Except StartFault α
  storage : τ
  acts : List Act

def Started.map {α β τ : Type} (f : α → β) (started : Started α τ) : Started β τ :=
  ⟨started.result.map f, started.storage, started.acts⟩

/-- Whether the matcher of a domain can be built. The fault is the number of octets that a matcher may take. -/
abbrev MatcherLimit := String → Except Nat Unit

/-- Matchers of any size, as only those of domains with hundreds of thousands of characters come near a limit. -/
def MatcherLimit.none : MatcherLimit := fun _ => .ok ()

/-- What a provider answers when it is asked for its pair, and what it logs. -/
abbrev Answer := Except TlsFault Tls.CertifiedKey × List Event

/-- The pair of a provider must be usable before the server starts. -/
def checkAnswer : Option Answer → Except TlsFault Unit × List Event
  | none => (.ok (), [])
  | some (.error fault, events) =>
    (.error fault, events ++ [.tagged .adminError "Unable to load the configured TLS certificate"])
  | some (.ok _, events) => (.ok (), events)

def checkProvider (provider : Option Tls.FileProvider) (tree : Os.Files) :
    Except TlsFault Unit × List Event :=
  checkAnswer (provider.map (·.certificate tree))

/-- What the operating system answers when a socket is bound: where it is bound, if it is. -/
abbrev Binder := Net.Endpoint → Except Os.Failure Net.Endpoint

/-- Where an address text is bound. -/
def bindAddress (bind : Binder) (address : String) : Except StartFault Net.Endpoint :=
  match Net.Endpoint.ofString? address with
  | none => .error (.invalidConfiguration (Config.Flaw.badAddress address).message)
  | some endpoint =>
    match bind endpoint with
    | .error cause => .error (.bind address cause)
    | .ok bound => .ok bound

/-- Only the socket can refuse an address that can be read. -/
theorem bindAddress_of_read {address : String} {endpoint : Net.Endpoint}
    (reads : Net.Endpoint.ofString? address = some endpoint) (bind : Binder) :
    bindAddress bind address = (bind endpoint).mapError (.bind address) := by
  rw [bindAddress, reads]
  dsimp only
  cases bind endpoint <;> rfl

theorem bindAddress_of_unread {address : String} (unread : Net.Endpoint.ofString? address = none) (bind : Binder) :
    bindAddress bind address = .error (.invalidConfiguration (Config.Flaw.badAddress address).message) := by
  rw [bindAddress, unread]

/-- A server that is set up, whatever its provider is. -/
structure Setup where
  responder : Responder
  loopback : Tls.CertifiedKey
  bound : Net.Endpoint
  deriving DecidableEq, Repr

/-- The steps of a start in order: the matcher, the provider, the loopback pair, the address. -/
def attempt (limit : MatcherLimit) (answer : Option Answer) (bind : Binder)
    (configuration : Config.Configuration) (time : String) : Except StartFault Setup × List Event :=
  match limit configuration.domain with
  | .error octets => (.error (.invalidDomain configuration.domain octets), [])
  | .ok () =>
    match checkAnswer answer with
    | (.error fault, events) => (.error (.tls fault), events)
    | (.ok (), events) =>
      match Tls.CertifiedKey.loopback with
      | .error fault => (.error (.tls fault), events)
      | .ok loopback =>
        match bindAddress bind configuration.address with
        | .error fault => (.error fault, events)
        | .ok bound => (.ok ⟨⟨configuration.domain, ⟨configuration.token, time⟩⟩, loopback, bound⟩, events)

/-- What is logged when a server is ready. -/
def ready (setup : Setup) : Event :=
  Event.tagged .adminInfo "ldapcatch ready to accept connections 🦀"
    |>.also "local_addr" setup.bound.text
    |>.also "domain" setup.responder.domain

/-- Sets up a server with any provider, of which nothing but its first answer is asked. -/
def create {τ : Type} [Storage τ] (limit : MatcherLimit) (answer : Option Answer) (bind : Binder)
    (configuration : Config.Configuration) (time : String) (storage : τ) : Started Setup τ :=
  match attempt limit answer bind configuration time with
  | (.error fault, events) => ⟨.error fault, storage, events.map .logged⟩
  | (.ok setup, events) =>
    let (acts, storage) := setup.responder.recorder.log .print
      ("Starting LDAP interface ldap://" ++ setup.bound.text ++ " ...") storage
    ⟨.ok setup, storage, events.map .logged ++ acts ++ [.logged (ready setup)]⟩

/-- The listener of a server whose provider reads files. -/
def Setup.listener (provider : Option Tls.FileProvider) (setup : Setup) : Listener :=
  ⟨setup.responder, ⟨provider, setup.loopback⟩, setup.bound⟩

/-- Starts a server with the provider of its configuration. -/
def start {τ : Type} [Storage τ] (bind : Binder) (tree : Os.Files)
    (configuration : Config.Configuration) (time : String) (storage : τ) : Started Listener τ :=
  (create MatcherLimit.none (configuration.tls.map (·.certificate tree)) bind configuration time storage).map
    (·.listener configuration.tls)

/-- What a listener logs when it stops. -/
def stopped : Event := .plain .info "Stopped LDAP listener"

/-- Serves a client that connects to a listener. -/
def Listener.serve {τ : Type} [Storage τ] (listener : Listener) (remote : Net.Endpoint) (tree : Os.Files)
    (inbox : List Arrival) (storage : τ) : Served τ :=
  Connection.session listener.responder (.fresh remote listener.upgrader tree inbox) storage

end LdapDecoy.Server
