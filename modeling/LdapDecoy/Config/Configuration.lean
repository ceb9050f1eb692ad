import LdapDecoy.Config.Settings
import LdapDecoy.Fault
import LdapDecoy.Net.Endpoint
import LdapDecoy.Text.Blank
import LdapDecoy.Tls.Provider

/-!
# Configurations

What the server runs on: settings with the defaults applied and the values checked.
-/
namespace LdapDecoy.Config

structure Configuration where
  domain : String
  address : String
  token : String
  /-- The files of the server's own certificate. -/
  tls : Option Tls.FileProvider
  interactionLog : Option String
  logLevel : LogLevel
  deriving DecidableEq, Repr

/-- The address that is bound when none is set. -/
def defaultAddress : String := "0.0.0.0:389"

/-- What is wrong with settings. -/
inductive Flaw where
  | noDomain
  | halfTls
  | emptyToken
  /-- An address that tries to name all addresses of the longer kind. -/
  | wildcard (address port : String)
  | badAddress (address : String)
  deriving DecidableEq, Repr

def Flaw.message : Flaw → String
  | .noDomain => "domain must be set"
  | .halfTls => "tls_chain and tls_key must be set together"
  | .emptyToken => "token must not be empty"
  | .wildcard address port =>
    "Address '" ++ address ++ "' looks like an attempt to wildcard bind with IPv6 on port " ++ port ++
      " - please try using ldapbindaddress = '[::]:" ++ port ++ "'"
  | .badAddress address =>
    "Could not parse LDAP server address " ++ address ++ " -> AddrParseError(Socket)"

namespace Configuration

/-- The defaults for a domain, with a token made for the occasion. -/
def new (domain generated : String) : Configuration where
  domain
  address := defaultAddress
  token := generated
  tls := none
  interactionLog := none
  logLevel := LogLevel.default

def updateAddress (configuration : Configuration) (address : Option String) : Configuration :=
  { configuration with address := address.getD configuration.address }

def updateToken (configuration : Configuration) (token : Option String) : Configuration :=
  { configuration with token := token.getD configuration.token }

/-- Certificate files count only together. -/
def updateTls (configuration : Configuration) (chain key : Option String) : Configuration :=
  match chain, key with
  | some chain, some key => { configuration with tls := some ⟨chain, key⟩ }
  | _, _ => { configuration with tls := none }

def updateInteractionLog (configuration : Configuration) (path : Option String) : Configuration :=
  { configuration with interactionLog := path }

def updateLogLevel (configuration : Configuration) (level : Option LogLevel) : Configuration :=
  { configuration with logLevel := level.getD LogLevel.default }

/-- Settings over the defaults, unchecked. -/
def apply (settings : Settings) (generated : String) : Configuration :=
  new (String.ofList (Text.trim settings.domain.toList)) generated
    |>.updateAddress settings.bindAddress
    |>.updateToken settings.token
    |>.updateTls settings.tlsChain settings.tlsKey
    |>.updateInteractionLog settings.interactionLog
    |>.updateLogLevel settings.logLevel

/-- The text behind three colons. -/
def behindColons? (s : List Char) : Option (List Char) :=
  match s with
  | ':' :: ':' :: ':' :: rest => some rest
  | _ => none

/-- The first thing that is wrong with an address. -/
def addressFlaw? (address : String) : Option Flaw :=
  match behindColons? address.toList with
  | some port => some (.wildcard address (String.ofList port))
  | none => if (Net.Endpoint.ofString? address).isSome then none else some (.badAddress address)

/-- The first thing that is wrong with settings. -/
def flaw? (settings : Settings) : Option Flaw :=
  if (Text.trim settings.domain.toList).isEmpty then some .noDomain
  else if settings.tlsChain.isSome != settings.tlsKey.isSome then some .halfTls
  else if settings.token = some "" then some .emptyToken
  else addressFlaw? (settings.bindAddress.getD defaultAddress)

/-- The configuration that settings ask for. -/
def ofSettings (settings : Settings) (generated : String) : Except StartFault Configuration :=
  match flaw? settings with
  | some flaw => .error (.invalidConfiguration flaw.message)
  | none => .ok (apply settings generated)

def display (configuration : Configuration) : String :=
  "domain: " ++ configuration.domain ++ ", ldap address: " ++ configuration.address ++ ", tls chain: " ++
    (configuration.tls.map (·.chain)).getD "built in loopback certificate" ++ ", interaction log: " ++
    configuration.interactionLog.getD "memory" ++ ", log_level: " ++ configuration.logLevel.name

end Configuration

end LdapDecoy.Config
