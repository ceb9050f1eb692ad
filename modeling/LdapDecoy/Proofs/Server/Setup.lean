import LdapDecoy.Proofs.Acts
import LdapDecoy.Proofs.Checks
import LdapDecoy.Proofs.Server.Start
import LdapDecoy.Storage.Switched

/-!
# What a start leaves in storage

A start that fails reports the first of its steps that has failed, and nothing has been offered to storage. One that
succeeds has offered a single record by then, which says where the server listens, and it makes no difference to the
start whether storage takes it.
-/
namespace LdapDecoy.Server

variable {limit : MatcherLimit} {answer : Option Answer} {bind : Binder} {configuration : Config.Configuration}

/-! ## What can fail -/

/-- What can keep a server from starting, in the order of the steps: the matcher of its domain is too large, its
provider gives no pair, its address cannot be read, or cannot be bound. -/
def obstacles (limit : MatcherLimit) (answer : Option Answer) (bind : Binder)
    (configuration : Config.Configuration) : List (StartFault → Prop) :=
  [fun fault => ∃ octets, limit configuration.domain = .error octets ∧
      fault = .invalidDomain configuration.domain octets,
    fun fault => ∃ cause events, answer = some (.error cause, events) ∧ fault = .tls cause,
    fun fault => Net.Endpoint.ofString? configuration.address = none ∧
      fault = .invalidConfiguration (Config.Flaw.badAddress configuration.address).message,
    fun fault => ∃ endpoint cause, Net.Endpoint.ofString? configuration.address = some endpoint ∧
      bind endpoint = .error cause ∧ fault = .bind configuration.address cause]

theorem checkAnswer_eq_error_iff {cause : TlsFault} :
    (checkAnswer answer).1 = .error cause ↔ ∃ events, answer = some (.error cause, events) := by
  rcases answer with _ | ⟨other | pair, events⟩
  · exact ⟨nofun, nofun⟩
  · constructor
    · rintro ⟨⟩
      exact ⟨events, rfl⟩
    · rintro ⟨_, ⟨⟩⟩
      rfl
  · exact ⟨nofun, nofun⟩

theorem bindAddress_eq_error_iff {address : String} {fault : StartFault} :
    bindAddress bind address = .error fault ↔ FirstFault
      [fun fault => Net.Endpoint.ofString? address = none ∧
          fault = .invalidConfiguration (Config.Flaw.badAddress address).message,
        fun fault => ∃ endpoint cause, Net.Endpoint.ofString? address = some endpoint ∧
          bind endpoint = .error cause ∧ fault = .bind address cause] fault := by
  cases reads : Net.Endpoint.ofString? address with
  | none =>
      rw [bindAddress_of_unread reads, FirstFault.iff_of_finds fun other => and_iff_right rfl, Except.error.injEq]
      exact eq_comm
  | some endpoint =>
      have passes : ∀ other, ¬ (some endpoint = none ∧
          other = StartFault.invalidConfiguration (Config.Flaw.badAddress address).message) := nofun
      rw [bindAddress_of_read reads, FirstFault.iff_of_passes passes, FirstFault.singleton_iff]
      cases answered : bind endpoint with
      | error cause =>
          constructor
          · rintro ⟨⟩
            exact ⟨endpoint, cause, rfl, answered, rfl⟩
          · rintro ⟨_, _, ⟨⟩, same, rfl⟩
            rw [← Except.error.inj (answered.symm.trans same)]
            rfl
      | ok bound =>
          refine ⟨nofun, ?_⟩
          rintro ⟨_, _, ⟨⟩, same, _⟩
          cases answered.symm.trans same

theorem exists_of_bindAddress {address : String} {bound : Net.Endpoint}
    (binds : bindAddress bind address = .ok bound) :
    ∃ endpoint, Net.Endpoint.ofString? address = some endpoint ∧ bind endpoint = .ok bound := by
  cases reads : Net.Endpoint.ofString? address with
  | none =>
      rw [bindAddress_of_unread reads] at binds
      cases binds
  | some endpoint =>
      refine ⟨endpoint, rfl, ?_⟩
      rw [bindAddress_of_read reads] at binds
      cases answered : bind endpoint with
      | error cause =>
          rw [answered] at binds
          cases binds
      | ok place =>
          rw [answered] at binds
          cases binds
          rfl

/-- What the steps come to. The loopback pair can always be read, so that it is no obstacle. -/
theorem attempt_cases (limit : MatcherLimit) (answer : Option Answer) (bind : Binder)
    (configuration : Config.Configuration) (time : String) :
    let result := (attempt limit answer bind configuration time).1
    (∃ octets, limit configuration.domain = .error octets ∧
      result = .error (.invalidDomain configuration.domain octets)) ∨
    (limit configuration.domain = .ok () ∧
      ∃ cause, (checkAnswer answer).1 = .error cause ∧ result = .error (.tls cause)) ∨
    (limit configuration.domain = .ok () ∧ (checkAnswer answer).1 = .ok () ∧
      ∃ loopback, result = (bindAddress bind configuration.address).map fun bound =>
        ⟨⟨configuration.domain, ⟨configuration.token, time⟩⟩, loopback, bound⟩) := by
  cases fits : limit configuration.domain with
  | error octets => exact .inl ⟨octets, rfl, attempt_of_large fits bind time⟩
  | ok _ =>
      cases checked : (checkAnswer answer).1 with
      | error cause => exact .inr (.inl ⟨rfl, cause, rfl, attempt_of_refused fits checked bind time⟩)
      | ok _ =>
          obtain ⟨loopback, _, attempted⟩ := attempt_of_passed fits checked bind time
          exact .inr (.inr ⟨rfl, rfl, loopback, attempted⟩)

/-- The steps fail with the fault of the first that fails. -/
theorem attempt_eq_error_iff (time : String) {fault : StartFault} :
    (attempt limit answer bind configuration time).1 = .error fault ↔
      FirstFault (obstacles limit answer bind configuration) fault := by
  rw [obstacles]
  rcases attempt_cases limit answer bind configuration time with
    ⟨octets, large, failed⟩ | ⟨fits, cause, refused, failed⟩ | ⟨fits, passed, loopback, attempted⟩
  · rw [failed, large, Except.error.injEq, FirstFault.iff_of_finds fun other => ?_]
    · exact eq_comm
    · exact ⟨fun ⟨_, same, found⟩ => Except.error.inj same ▸ found, fun found => ⟨octets, rfl, found⟩⟩
  · obtain ⟨events, rfl⟩ := checkAnswer_eq_error_iff.mp refused
    rw [failed, fits, FirstFault.iff_of_passes nofun, Except.error.injEq, FirstFault.iff_of_finds fun other => ?_]
    · exact eq_comm
    · constructor
      · rintro ⟨_, _, ⟨⟩, rfl⟩
        rfl
      · exact fun found => ⟨cause, events, rfl, found⟩
  · have passes : ∀ other, ¬ ∃ cause events, answer = some (.error cause, events) ∧
        other = StartFault.tls cause := by
      rintro other ⟨cause, events, same, _⟩
      cases passed.symm.trans (checkAnswer_eq_error_iff.mpr ⟨events, same⟩)
    rw [attempted, fits, FirstFault.iff_of_passes nofun, FirstFault.iff_of_passes passes,
      ← bindAddress_eq_error_iff]
    cases bindAddress bind configuration.address with
    | error unbound =>
        constructor
        · rintro ⟨⟩
          rfl
        · rintro ⟨⟩
          rfl
    | ok bound => exact ⟨nofun, nofun⟩

/-- A server is set up with what its configuration says, where its socket is bound. -/
theorem attempt_of_ok {time : String} {setup : Setup}
    (succeeds : (attempt limit answer bind configuration time).1 = .ok setup) :
    setup.responder = ⟨configuration.domain, ⟨configuration.token, time⟩⟩ ∧
      ∃ endpoint, Net.Endpoint.ofString? configuration.address = some endpoint ∧
        bind endpoint = .ok setup.bound := by
  rcases attempt_cases limit answer bind configuration time with
    ⟨_, _, failed⟩ | ⟨_, _, _, failed⟩ | ⟨_, _, loopback, attempted⟩
  · cases failed.symm.trans succeeds
  · cases failed.symm.trans succeeds
  · rw [attempted] at succeeds
    cases binds : bindAddress bind configuration.address with
    | error unbound =>
        rw [binds] at succeeds
        cases succeeds
    | ok bound =>
        rw [binds] at succeeds
        cases succeeds
        exact ⟨rfl, exists_of_bindAddress binds⟩

/-! ## What is left behind -/

section
variable {τ : Type} [Storage τ] {time : String}

theorem create_of_error {fault : StartFault} {storage : τ}
    (failed : (attempt limit answer bind configuration time).1 = .error fault) :
    let created := create limit answer bind configuration time storage
    Act.offers created.acts = [] ∧ created.storage = storage := by
  rw [create]
  rcases attempted : attempt limit answer bind configuration time with ⟨result, events⟩
  rw [attempted] at failed
  cases failed
  exact ⟨Act.offers_map_logged events, rfl⟩

/-- The offer of the record that says where a server listens. -/
def announcement (configuration : Config.Configuration) (bound : Net.Endpoint) (time : String) : Offer :=
  ⟨.token, configuration.token,
    Record.line ⟨"", "", "Starting LDAP interface ldap://" ++ bound.text ++ " ...", "", time⟩⟩

theorem create_of_ok {setup : Setup} {storage : τ}
    (succeeds : (attempt limit answer bind configuration time).1 = .ok setup) :
    let created := create limit answer bind configuration time storage
    let offer := announcement configuration setup.bound time
    Act.offers created.acts = [offer] ∧ created.storage = (Storage.add offer storage).2 := by
  obtain ⟨responder, _⟩ := attempt_of_ok succeeds
  rw [create]
  rcases attempted : attempt limit answer bind configuration time with ⟨result, events⟩
  rw [attempted] at succeeds
  cases succeeds
  dsimp only
  rw [Act.offers_append, Act.offers_append, Act.offers_map_logged, Recorder.offers_log, responder]
  exact ⟨rfl, rfl⟩

/-- What a server that has started listens with, and what it has left in storage. -/
theorem start_of_ok {tree : Os.Files} {storage : τ} {listener : Listener}
    (started : (start bind tree configuration time storage).result = .ok listener) :
    listener.responder = ⟨configuration.domain, ⟨configuration.token, time⟩⟩ ∧
      (∃ endpoint, Net.Endpoint.ofString? configuration.address = some endpoint ∧
        bind endpoint = .ok listener.bound) ∧
      (start bind tree configuration time storage).storage =
        (Storage.add (announcement configuration listener.bound time) storage).2 := by
  have result : (start bind tree configuration time storage).result =
      (attempt MatcherLimit.none (configuration.tls.map (·.certificate tree)) bind configuration time).1.map
        (·.listener configuration.tls) :=
    congrArg (Except.map _) (create_result _ _ _ _ _ storage)
  rw [result] at started
  cases attempted :
      (attempt MatcherLimit.none (configuration.tls.map (·.certificate tree)) bind configuration time).1 with
  | error fault =>
      rw [attempted] at started
      cases started
  | ok setup =>
      rw [attempted] at started
      cases started
      obtain ⟨responder, bound⟩ := attempt_of_ok attempted
      exact ⟨responder, bound, (create_of_ok attempted).2⟩

/-- A start that fails reports the first of its steps that fails, has offered nothing, and leaves storage as it was. One
that does not has offered a single record, under the token, which says where the socket is bound. What has come of the
start is the same in any other storage, whether it takes the record or not. -/
theorem create_recorded (limit : MatcherLimit) (answer : Option Answer) (bind : Binder)
    (configuration : Config.Configuration) (time : String) (storage : τ) :
    let created := create limit answer bind configuration time storage
    (∀ fault, created.result = .error fault ↔ FirstFault (obstacles limit answer bind configuration) fault) ∧
    (∀ fault, created.result = .error fault → Act.offers created.acts = [] ∧ created.storage = storage) ∧
    (∀ setup, created.result = .ok setup →
      (∃ endpoint, Net.Endpoint.ofString? configuration.address = some endpoint ∧
        bind endpoint = .ok setup.bound) ∧
      Act.offers created.acts = [announcement configuration setup.bound time] ∧
      created.storage = (Storage.add (announcement configuration setup.bound time) storage).2) ∧
    ∀ (τ' : Type) [Storage τ'] (other : τ'),
      (create limit answer bind configuration time other).result = created.result := by
  intro created
  have result : created.result = (attempt limit answer bind configuration time).1 := create_result _ _ _ _ _ _
  rw [result]
  refine ⟨fun fault => attempt_eq_error_iff time, fun fault => create_of_error, fun setup succeeds => ?_, ?_⟩
  · exact ⟨(attempt_of_ok succeeds).2, create_of_ok succeeds⟩
  · exact fun τ' _ other => create_result _ _ _ _ _ other

/-- A provider without a pair, which is reported before the address that cannot be read; and a storage that is down,
which does not keep a server from starting. -/
theorem create_recorded_down :
    let configuration address : Config.Configuration := ⟨"example.test", address, "token", none, none, .default⟩
    let down : Storage.Switched Storage.Memory := ⟨Storage.Memory.empty, true⟩
    let without : Answer := (.error (.provider "no certificate"), [])
    let failed := create MatcherLimit.none (some without) .ok (configuration "nowhere") "now" Storage.Memory.empty
    let created := create MatcherLimit.none none .ok (configuration "127.0.0.1:389") "now" down
    (failed.result = .error (.tls (.provider "no certificate")) ∧ Act.offers failed.acts = []) ∧
      ∃ setup, created.result = .ok setup ∧ setup.bound = ⟨.v4 127 0 0 1, 389, 0⟩ ∧
        Act.offers created.acts = [announcement (configuration "127.0.0.1:389") setup.bound "now"] ∧
        created.storage = down := by
  intro configuration down without
  dsimp only
  constructor
  · obtain ⟨refused, untouched, _⟩ := create_recorded MatcherLimit.none (some without) .ok
      (configuration "nowhere") "now" Storage.Memory.empty
    have failed := (refused (.tls (.provider "no certificate"))).mpr (.behind nofun (.here ⟨_, _, rfl, rfl⟩))
    exact ⟨failed, (untouched _ failed).1⟩
  · obtain ⟨_, _, announced, _⟩ := create_recorded MatcherLimit.none none .ok
      (configuration "127.0.0.1:389") "now" down
    have reads : Net.Endpoint.ofString? "127.0.0.1:389" = some ⟨.v4 127 0 0 1, 389, 0⟩ := by decide
    have bound : bindAddress .ok (configuration "127.0.0.1:389").address = .ok ⟨.v4 127 0 0 1, 389, 0⟩ :=
      bindAddress_of_read reads .ok
    have fits : MatcherLimit.none (configuration "127.0.0.1:389").domain = .ok () := rfl
    have passes : (checkAnswer none).1 = .ok () := rfl
    obtain ⟨loopback, _, attempted⟩ := attempt_of_passed fits passes .ok "now"
    rw [bound] at attempted
    have result := create_result MatcherLimit.none none .ok (configuration "127.0.0.1:389") "now" down
    have succeeds := result.trans attempted
    obtain ⟨_, offered, kept⟩ := announced _ succeeds
    have unchanged (offer : Offer) : (Storage.add offer down).2 = down := rfl
    rw [unchanged] at kept
    exact ⟨_, succeeds, rfl, offered, kept⟩

end

end LdapDecoy.Server
