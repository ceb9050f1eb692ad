import LdapDecoy.Daemon.Run
import LdapDecoy.Proofs.Config.Configuration
import LdapDecoy.Proofs.Server.Setup

/-!
# A test of the configuration, and what it promises

A test of the configuration passes where the settings can be read, nothing is wrong with them and the provider gives
a pair. These are all the checks of a start but two: opening the file for records, and binding the address.
-/
namespace LdapDecoy.Daemon
open Config (Configuration Settings)

/-! ## What is tested -/

/-- The certificate is tested as a start checks it. -/
theorem testCertificate_eq_zero {tree : Os.Files} {configuration : Configuration} :
    (testCertificate tree configuration).1 = 0 ↔
      (Server.checkProvider configuration.tls tree).1 = .ok () := by
  unfold testCertificate
  cases configuration.tls with
  | none => exact ⟨fun _ => rfl, fun _ => rfl⟩
  | some provider =>
      rw [Server.checkProvider, Option.map_some]
      dsimp only
      rcases provider.certificate tree with ⟨fault | pair, events⟩
      · constructor
        · intro passes
          cases passes
        · intro passes
          cases passes
      · exact ⟨fun _ => rfl, fun _ => rfl⟩

section
variable {surroundings : Surroundings} {file : String} {settings : Settings}

/-- Settings with which nothing is wrong make a configuration. -/
theorem ofFile_of_read (read : Settings.read surroundings.tree file = .ok settings)
    (flawless : Configuration.flaw? settings = none) (errand : String → Configuration → Errand) :
    Errand.ofFile surroundings file errand =
      errand file (Configuration.apply settings surroundings.generated) := by
  rw [Errand.ofFile, read]
  dsimp only
  rw [Configuration.ofSettings, flawless]

/-- Without such settings there is nothing left to do but to report it. -/
theorem ofFile_cases (surroundings : Surroundings) (file : String)
    (errand : String → Configuration → Errand) :
    (∃ settings, Settings.read surroundings.tree file = .ok settings ∧
      Configuration.flaw? settings = none) ∨
      ∃ lines, Errand.ofFile surroundings file errand = .report ⟨1, lines⟩ := by
  rw [Errand.ofFile]
  cases Settings.read surroundings.tree file with
  | error fault => exact .inr ⟨[], rfl⟩
  | ok settings =>
      cases flaw : Configuration.flaw? settings with
      | none => exact .inl ⟨settings, rfl, flaw⟩
      | some flaw' =>
          dsimp only
          rw [Configuration.ofSettings, flaw]
          exact .inr ⟨_, rfl⟩

variable {arguments : List String} {path : Option String}

theorem run_configtest (tests : Invocation.ofArguments arguments = .run .configtest path)
    (read : Settings.read surroundings.tree (configurationFile path surroundings.variableValue) = .ok settings)
    (flawless : Configuration.flaw? settings = none) :
    let configuration := Configuration.apply settings surroundings.generated
    Errand.ofArguments surroundings arguments =
        .test (configurationFile path surroundings.variableValue) configuration ∧
      (run surroundings arguments).code = (testCertificate surroundings.tree configuration).1 := by
  have errand := ofFile_of_read read flawless .test
  rw [run, Errand.ofArguments, tests]
  dsimp only
  rw [errand]
  exact ⟨rfl, rfl⟩

/-- When a test of the configuration passes. -/
theorem run_configtest_eq_zero (tests : Invocation.ofArguments arguments = .run .configtest path) :
    (run surroundings arguments).code = 0 ↔
      ∃ settings,
        Settings.read surroundings.tree (configurationFile path surroundings.variableValue) = .ok settings ∧
          Configuration.flaw? settings = none ∧
          (Server.checkProvider (Configuration.apply settings surroundings.generated).tls
            surroundings.tree).1 = .ok () := by
  constructor
  · intro passes
    rcases ofFile_cases surroundings (configurationFile path surroundings.variableValue) .test with
      ⟨settings, read, flawless⟩ | ⟨lines, reported⟩
    · rw [(run_configtest tests read flawless).2] at passes
      exact ⟨settings, read, flawless, testCertificate_eq_zero.mp passes⟩
    · rw [run, Errand.ofArguments, tests] at passes
      dsimp only at passes
      rw [reported] at passes
      cases passes
  · rintro ⟨settings, read, flawless, checked⟩
    rw [(run_configtest tests read flawless).2]
    exact testCertificate_eq_zero.mpr checked

theorem run_server (serves : Invocation.ofArguments arguments = .run .server path)
    (read : Settings.read surroundings.tree (configurationFile path surroundings.variableValue) = .ok settings)
    (flawless : Configuration.flaw? settings = none) :
    let configuration := Configuration.apply settings surroundings.generated
    Errand.ofArguments surroundings arguments =
        .serve (configurationFile path surroundings.variableValue) configuration ∧
      (run surroundings arguments).code = (serve surroundings configuration).1 := by
  have errand := ofFile_of_read read flawless .serve
  rw [run, Errand.ofArguments, serves]
  dsimp only
  rw [errand]
  exact ⟨rfl, rfl⟩

end

/-! ## What a launch does beyond -/

section
variable {surroundings : Surroundings} {configuration : Configuration}

theorem serve_of_ok {running : Running} (launched : (launch surroundings configuration).result = .ok running) :
    (serve surroundings configuration).1 = 0 := by
  rw [serve, launched]

theorem serve_of_error {fault : StartFault}
    (failed : (launch surroundings configuration).result = .error fault) :
    (serve surroundings configuration).1 = 1 := by
  rw [serve, failed]

/-- Only a file for records can be missing. -/
theorem open?_eq_error {tree : Os.Files} {log : Option String} {fault : StorageFault}
    (failed : Storage.Store.open? tree log = .error fault) :
    ∃ path cause, log = some path ∧ tree.openToAppend path = .error cause ∧ fault = .system cause := by
  cases log with
  | none => cases failed
  | some path =>
      rw [Storage.Store.open?, Storage.Journal.open?] at failed
      cases opened : tree.openToAppend path with
      | ok content =>
          rw [opened] at failed
          cases failed
      | error cause =>
          rw [opened] at failed
          cases failed
          exact ⟨path, cause, rfl, opened, rfl⟩

/-- An address that can be read fails to be bound for the cause that the socket has. -/
theorem bindAddress_eq_error {bind : Server.Binder} {address : String} {endpoint : Net.Endpoint}
    {fault : StartFault} (reads : Net.Endpoint.ofString? address = some endpoint)
    (failed : Server.bindAddress bind address = .error fault) :
    ∃ cause, bind endpoint = .error cause ∧ fault = .bind address cause := by
  rw [Server.bindAddress_of_read reads] at failed
  cases bound : bind endpoint with
  | ok place =>
      rw [bound] at failed
      cases failed
  | error cause =>
      rw [bound] at failed
      cases failed
      exact ⟨cause, rfl, rfl⟩

theorem launch_of_unopened {fault : StorageFault}
    (unopened : Storage.Store.open? surroundings.tree configuration.interactionLog = .error fault) :
    (launch surroundings configuration).result = .error (.storage fault) := by
  rw [launch, unopened]

theorem launch_of_opened {store : Storage.Store}
    (opened : Storage.Store.open? surroundings.tree configuration.interactionLog = .ok store) :
    (launch surroundings configuration).result =
      (Server.start surroundings.bind surroundings.tree configuration surroundings.time store).result.map
        (⟨·, (Server.start surroundings.bind surroundings.tree configuration surroundings.time store).storage⟩) := by
  rw [launch, opened]
  dsimp only
  cases (Server.start surroundings.bind surroundings.tree configuration surroundings.time store).result <;> rfl

/-- With a provider that is passed and an address that can be read, a launch fails for one of two causes. -/
theorem launch_eq_error {endpoint : Net.Endpoint} {fault : StartFault}
    (passes : (Server.checkProvider configuration.tls surroundings.tree).1 = .ok ())
    (reads : Net.Endpoint.ofString? configuration.address = some endpoint)
    (failed : (launch surroundings configuration).result = .error fault) :
    (∃ path cause, configuration.interactionLog = some path ∧
      surroundings.tree.openToAppend path = .error cause ∧ fault = .storage (.system cause)) ∨
    ∃ cause, surroundings.bind endpoint = .error cause ∧ fault = .bind configuration.address cause := by
  cases opened : Storage.Store.open? surroundings.tree configuration.interactionLog with
  | error unopened =>
      rw [launch_of_unopened opened] at failed
      cases failed
      obtain ⟨path, cause, configured, missing, rfl⟩ := open?_eq_error opened
      exact .inl ⟨path, cause, configured, missing, rfl⟩
  | ok store =>
      obtain ⟨loopback, _, started⟩ :=
        Server.start_of_passed passes surroundings.bind surroundings.time store
      rw [launch_of_opened opened, started] at failed
      cases bound : Server.bindAddress surroundings.bind configuration.address with
      | ok place =>
          rw [bound] at failed
          cases failed
      | error unbound =>
          rw [bound] at failed
          cases failed
          exact .inr (bindAddress_eq_error reads bound)

/-- What a server runs with that has been launched over a configuration: the store that is configured, with the record
of its start; the pair of its provider, where files are configured for one; and a socket that is bound where the
address says. -/
structure Running.Serves (surroundings : Surroundings) (configuration : Configuration) (running : Running) :
    Prop where
  responder : running.listener.responder = ⟨configuration.domain, ⟨configuration.token, surroundings.time⟩⟩
  provider : running.listener.upgrader.provider = configuration.tls
  pair : ∀ files, configuration.tls = some files →
    (files.certificate surroundings.tree).1 = .ok (running.listener.upgrader.select surroundings.tree).1
  bound : ∃ endpoint, Net.Endpoint.ofString? configuration.address = some endpoint ∧
    surroundings.bind endpoint = .ok running.listener.bound
  store : ∃ opened, Storage.Store.open? surroundings.tree configuration.interactionLog = .ok opened ∧
    running.store =
      (Storage.add (Server.announcement configuration running.listener.bound surroundings.time) opened).2

theorem serves_of_launch {running : Running}
    (launched : (launch surroundings configuration).result = .ok running) :
    running.Serves surroundings configuration := by
  cases opened : Storage.Store.open? surroundings.tree configuration.interactionLog with
  | error fault =>
      rw [launch_of_unopened opened] at launched
      cases launched
  | ok store =>
      rw [launch_of_opened opened] at launched
      cases started : (Server.start surroundings.bind surroundings.tree configuration surroundings.time store).result with
      | error fault =>
          rw [started] at launched
          cases launched
      | ok listener =>
          rw [started] at launched
          cases launched
          obtain ⟨passes, provider⟩ := Server.of_started started
          obtain ⟨responder, bound, recorded⟩ := Server.start_of_ok started
          refine ⟨responder, provider, ?_, bound, store, opened, recorded⟩
          intro files configured
          obtain ⟨pair, gives⟩ := Server.checkProvider_eq_ok.mp passes files configured
          rw [Tls.Upgrader.select_of_certificate (provider.trans configured) gives]
          exact gives

end

/-! ## Settings without a flaw -/

theorem apply_address (settings : Settings) (generated : String) :
    (Configuration.apply settings generated).address = settings.bindAddress.getD Config.defaultAddress := by
  rw [Configuration.apply_eq]

/-- The files of a certificate do not depend on the token that is made for the occasion. -/
theorem apply_tls (settings : Settings) (generated other : String) :
    (Configuration.apply settings generated).tls = (Configuration.apply settings other).tls := by
  rw [Configuration.apply_eq, Configuration.apply_eq]

theorem reads_of_flawless {settings : Settings} (flawless : Configuration.flaw? settings = none)
    (generated : String) :
    ∃ endpoint, Net.Endpoint.ofString? (Configuration.apply settings generated).address = some endpoint := by
  rw [apply_address]
  exact (Configuration.flaw?_eq_none_iff.mp flawless).2.2.2

/-- Where the files of a provider read the same, it is checked the same. -/
theorem checkProvider_congr {tree later : Os.Files} {provider : Option Tls.FileProvider}
    (same : ∀ files, provider = some files →
      later.read files.chain = tree.read files.chain ∧ later.read files.key = tree.read files.key) :
    Server.checkProvider provider later = Server.checkProvider provider tree := by
  cases provider with
  | none => rfl
  | some files =>
      obtain ⟨chain, key⟩ := same files rfl
      rw [Server.checkProvider, Server.checkProvider, Option.map_some, Option.map_some,
        files.certificate_congr chain key]

/-- The files of a configuration are as they were: the one it was read from, and those of its certificate. -/
structure Unchanged (tree later : Os.Files) (file : String) (configuration : Configuration) : Prop where
  settings : later.read file = tree.read file
  certificate : ∀ files, configuration.tls = some files →
    later.read files.chain = tree.read files.chain ∧ later.read files.key = tree.read files.key

/-! ## Surroundings with a certificate in files -/

namespace Sample
open Tls

def settingsText : Bytes :=
  Text.bytes "domain = \"example.test\"\ntls_chain = \"chain.pem\"\ntls_key = \"key.pem\"\n"

def settings : Settings := ⟨"example.test", none, none, some "chain.pem", some "key.pem", none, none⟩

/-- A directory with a configuration file and the loopback pair. -/
def surroundings (generated time : String) : Surroundings where
  variableValue := none
  tree := .flat [("server.toml", settingsText), ("chain.pem", Loopback.chain), ("key.pem", Loopback.key)]
  bind := .ok
  generated
  time

variable (generated time : String)

theorem settings_read : Settings.read (surroundings generated time).tree "server.toml" = .ok settings := by
  have spelled : ((Settings.ofBytes settingsText).toOption.any fun found => found = settings) = true := by
    decide +kernel
  obtain ⟨found, read, same⟩ := exists_of_any spelled
  have content : (surroundings generated time).tree.read "server.toml" = .ok settingsText :=
    Os.Files.flat_read (by decide) rfl
  rw [Settings.read, content]
  dsimp only
  rw [read, of_decide_eq_true same]

theorem checkProvider_eq :
    (Server.checkProvider (Configuration.apply settings generated).tls (surroundings generated time).tree).1 =
      .ok () := by
  obtain ⟨pair, read, large, _⟩ := CertifiedKey.exists_loopback
  refine Server.checkProvider_eq_ok.mpr ?_
  intro files same
  cases same
  exact ⟨pair, FileProvider.certificate_of_read (Os.Files.flat_read (by decide) rfl)
    (Os.Files.flat_read (by decide) rfl) read large⟩

end Sample

/-! ## The promise -/

/-- What a test of the configuration has passed can be served. With the same file for the configuration, and with
this file and those of the certificate unchanged, a server either starts, with all that is configured, or does not for
one of two causes: the file for records cannot be opened, or the address cannot be bound. Whatever else there is to be
wrong would have made the test fail. -/
theorem serve_of_configtest {surroundings later : Surroundings} {arguments others : List String}
    {path otherPath : Option String} (tests : Invocation.ofArguments arguments = .run .configtest path)
    (serves : Invocation.ofArguments others = .run .server otherPath)
    (sameFile : configurationFile otherPath later.variableValue =
      configurationFile path surroundings.variableValue)
    (unchanged : ∀ file tested, Errand.ofArguments surroundings arguments = .test file tested →
      Unchanged surroundings.tree later.tree file tested)
    (passes : (run surroundings arguments).code = 0) :
    ∃ file configuration, Errand.ofArguments later others = .serve file configuration ∧
      ((∃ running, (launch later configuration).result = .ok running ∧ (run later others).code = 0 ∧
          running.Serves later configuration) ∨
        ∃ fault, (launch later configuration).result = .error fault ∧ (run later others).code = 1 ∧
          ((∃ log cause, configuration.interactionLog = some log ∧
              later.tree.openToAppend log = .error cause ∧ fault = .storage (.system cause)) ∨
            ∃ endpoint cause, Net.Endpoint.ofString? configuration.address = some endpoint ∧
              later.bind endpoint = .error cause ∧ fault = .bind configuration.address cause)) := by
  obtain ⟨settings, read, flawless, checked⟩ := (run_configtest_eq_zero tests).mp passes
  obtain ⟨same, certificate⟩ := unchanged _ _ (run_configtest tests read flawless).1
  have reread : Settings.read later.tree (configurationFile otherPath later.variableValue) = .ok settings := by
    rw [sameFile, Settings.read, same]
    exact read
  obtain ⟨errand, code⟩ := run_server serves reread flawless
  refine ⟨_, _, errand, ?_⟩
  rw [code]
  obtain ⟨endpoint, reads⟩ := reads_of_flawless flawless later.generated
  rw [← checkProvider_congr certificate, apply_tls settings _ later.generated] at checked
  cases launched : (launch later (Configuration.apply settings later.generated)).result with
  | ok running => exact .inl ⟨running, rfl, serve_of_ok launched, serves_of_launch launched⟩
  | error fault =>
      refine .inr ⟨fault, rfl, serve_of_error launched, ?_⟩
      rcases launch_eq_error checked reads launched with missing | ⟨cause, unbound, rfl⟩
      · exact .inl missing
      · exact .inr ⟨endpoint, cause, reads, unbound, rfl⟩

/-- A directory with a configuration file and the loopback pair passes the test, and a server starts in it later, when
every address is free. -/
theorem serve_of_configtest_loopback :
    (run (Sample.surroundings "first" "now") ["configtest", "-cserver.toml"]).code = 0 ∧
      ∃ configuration running,
        Errand.ofArguments (Sample.surroundings "second" "later") ["server", "-cserver.toml"] =
          .serve "server.toml" configuration ∧
        (launch (Sample.surroundings "second" "later") configuration).result = .ok running ∧
        running.Serves (Sample.surroundings "second" "later") configuration := by
  have tests : Invocation.ofArguments ["configtest", "-cserver.toml"] = .run .configtest (some "server.toml") := by
    decide +kernel
  have serves : Invocation.ofArguments ["server", "-cserver.toml"] = .run .server (some "server.toml") := by
    decide +kernel
  have flawless : Configuration.flaw? Sample.settings = none := by
    decide +kernel
  have passes : (run (Sample.surroundings "first" "now") ["configtest", "-cserver.toml"]).code = 0 :=
    (run_configtest_eq_zero tests).mpr
      ⟨Sample.settings, Sample.settings_read _ _, flawless, Sample.checkProvider_eq _ _⟩
  obtain ⟨errand, _⟩ := run_server serves (Sample.settings_read "second" "later") flawless
  have sameFile : configurationFile (some "server.toml") (Sample.surroundings "second" "later").variableValue =
      configurationFile (some "server.toml") (Sample.surroundings "first" "now").variableValue := rfl
  obtain ⟨file, configuration, same, ends⟩ := serve_of_configtest tests serves sameFile
    (fun _ _ _ => ⟨rfl, fun _ _ => ⟨rfl, rfl⟩⟩) passes
  rw [errand, Errand.serve.injEq] at same
  obtain ⟨_, rfl⟩ := same
  rcases ends with
    ⟨running, launched, _, runs⟩ | ⟨fault, _, _, ⟨log, _, logged, _⟩ | ⟨endpoint, cause, _, unbound, _⟩⟩
  · exact ⟨passes, _, running, errand, launched, runs⟩
  · cases logged
  · cases unbound

end LdapDecoy.Daemon
