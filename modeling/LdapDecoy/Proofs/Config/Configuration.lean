import LdapDecoy.Config.Token
import LdapDecoy.Proofs.Checks
import LdapDecoy.Proofs.Text.Blank
import LdapDecoy.Server.Start

/-!
# Which settings make a configuration

Settings make a configuration exactly if nothing is wrong with them, and otherwise the first flaw is reported. What
they make has the values that are set, the defaults for the others, and an address that can be read.
-/
namespace LdapDecoy

/-! ## Addresses -/

namespace Net

/-- No endpoint begins with a colon. -/
theorem Endpoint.ofString?_colon (rest : String) : ofString? (":" ++ rest) = none := by
  have chars : (":" ++ rest).toList = ':' :: rest.toList := String.toList_append
  rw [ofString?, chars]
  rfl

end Net

namespace Config

/-! ## Tokens -/

namespace Token

theorem length_digits (octet : UInt8) : (digits octet).length = 2 := by
  have three : ∀ n < 256, (Nat.toDigits 16 (n + 256)).length = 3 := by decide +kernel
  rw [digits, List.length_drop, three octet.toNat octet.toNat_lt]

/-- A token that is made has two digits for each octet. -/
theorem length_ofRandom (octets : Bytes) : (ofRandom octets).length = 2 * octets.length := by
  have each : ∀ octets : Bytes, (octets.flatMap digits).length = 2 * octets.length := by
    intro octets
    induction octets with
    | nil => rfl
    | cons octet octets ih =>
        rw [List.flatMap_cons, List.length_append, length_digits, ih, List.length_cons]
        omega
  rw [ofRandom, String.length_ofList, each, stamp, List.length_mapIdx]

end Token

namespace Configuration

/-! ## Settings over the defaults -/

theorem apply_eq (settings : Settings) (generated : String) :
    apply settings generated =
      { domain := String.ofList (Text.trim settings.domain.toList)
        address := settings.bindAddress.getD defaultAddress
        token := settings.token.getD generated
        tls := settings.tlsChain.bind fun chain => settings.tlsKey.map fun key => ⟨chain, key⟩
        interactionLog := settings.interactionLog
        logLevel := settings.logLevel.getD .default } := by
  unfold apply updateTls
  cases settings.tlsChain <;> cases settings.tlsKey <;> rfl

/-! ## Flaws -/

/-- What is looked for in settings, in this order: a domain of white space alone, one file of a certificate without the
other, a token that is empty, an address that begins with three colons, and any other that cannot be read. -/
def checks (settings : Settings) : List (Flaw → Prop) :=
  let address := settings.bindAddress.getD defaultAddress
  [fun flaw => (∀ c ∈ settings.domain.toList, Text.isBlank c = true) ∧ flaw = .noDomain,
    fun flaw => settings.tlsChain.isSome ≠ settings.tlsKey.isSome ∧ flaw = .halfTls,
    fun flaw => settings.token = some "" ∧ flaw = .emptyToken,
    fun flaw => ∃ port, address = ":::" ++ port ∧ flaw = .wildcard address port,
    fun flaw => Net.Endpoint.ofString? address = none ∧ flaw = .badAddress address]

theorem behindColons?_eq_some_iff {address port : String} :
    behindColons? address.toList = some port.toList ↔ address = ":::" ++ port := by
  have chars : (":::" ++ port).toList = ':' :: ':' :: ':' :: port.toList := String.toList_append
  rw [← String.toList_inj, chars]
  constructor
  · intro found
    unfold behindColons? at found
    split at found
    · rename_i same
      rw [same, Option.some.inj found]
    · cases found
  · intro same
    rw [same, behindColons?]

theorem eq_of_behindColons? {address : String} {rest : List Char}
    (found : behindColons? address.toList = some rest) : address = ":::" ++ String.ofList rest := by
  rw [← behindColons?_eq_some_iff, String.toList_ofList]
  exact found

theorem addressFlaw?_eq_some_iff {address : String} {flaw : Flaw} :
    addressFlaw? address = some flaw ↔ FirstFault
      [fun flaw => ∃ port, address = ":::" ++ port ∧ flaw = .wildcard address port,
        fun flaw => Net.Endpoint.ofString? address = none ∧ flaw = .badAddress address] flaw := by
  rw [addressFlaw?]
  cases found : behindColons? address.toList with
  | some rest =>
      have begins := eq_of_behindColons? found
      rw [FirstFault.iff_of_finds fun other => ?_, Option.some.injEq]
      · exact eq_comm
      · constructor
        · rintro ⟨port, same, rfl⟩
          rw [behindColons?_eq_some_iff.mpr same] at found
          rw [← Option.some.inj found, String.ofList_toList]
        · exact fun same => ⟨_, begins, same⟩
  | none =>
      have passes : ∀ other, ¬ ∃ port, address = ":::" ++ port ∧ other = Flaw.wildcard address port := by
        rintro other ⟨port, same, _⟩
        rw [behindColons?_eq_some_iff.mpr same] at found
        cases found
      rw [FirstFault.iff_of_passes passes, FirstFault.singleton_iff]
      cases Net.Endpoint.ofString? address with
      | none => exact ⟨fun same => ⟨rfl, (Option.some.inj same).symm⟩, fun bad => congrArg some bad.2.symm⟩
      | some endpoint => exact ⟨nofun, nofun⟩

/-- What is wrong with settings is what the first check finds. -/
theorem flaw?_eq_some_iff {settings : Settings} {flaw : Flaw} :
    flaw? settings = some flaw ↔ FirstFault (checks settings) flaw := by
  unfold flaw? checks
  refine FirstFault.ite_iff ?_ (FirstFault.ite_iff bne_iff_ne (FirstFault.ite_iff Iff.rfl addressFlaw?_eq_some_iff))
  rw [List.isEmpty_iff, Text.trim_eq_nil_iff]

/-- An address that can be read does not begin with three colons, so that nothing is wrong with it. -/
theorem addressFlaw?_eq_none_iff {address : String} :
    addressFlaw? address = none ↔ ∃ endpoint, Net.Endpoint.ofString? address = some endpoint := by
  rw [addressFlaw?]
  cases found : behindColons? address.toList with
  | some rest =>
      have begins : address = ":" ++ ("::" ++ String.ofList rest) := by
        rw [← String.append_assoc]
        exact eq_of_behindColons? found
      rw [begins, Net.Endpoint.ofString?_colon]
      exact ⟨nofun, nofun⟩
  | none =>
      cases Net.Endpoint.ofString? address with
      | none => exact ⟨nofun, nofun⟩
      | some endpoint => exact ⟨fun _ => ⟨endpoint, rfl⟩, fun _ => rfl⟩

/-- Nothing is wrong with settings if each of their values is one that is taken. -/
theorem flaw?_eq_none_iff {settings : Settings} :
    flaw? settings = none ↔
      (∃ c ∈ settings.domain.toList, Text.isBlank c = false) ∧ settings.tlsChain.isSome = settings.tlsKey.isSome ∧
        settings.token ≠ some "" ∧
        ∃ endpoint, Net.Endpoint.ofString? (settings.bindAddress.getD defaultAddress) = some endpoint := by
  have visible : ¬ (Text.trim settings.domain.toList).isEmpty = true ↔
      ∃ c ∈ settings.domain.toList, Text.isBlank c = false := by
    rw [List.isEmpty_iff, Text.trim_eq_nil_iff]
    simp
  rw [flaw?, ← addressFlaw?_eq_none_iff, ← visible]
  split
  · rename_i blank
    exact ⟨nofun, fun passes => absurd blank passes.1⟩
  · rename_i domain
    split
    · rename_i half
      exact ⟨nofun, fun passes => absurd passes.2.1 (bne_iff_ne.mp half)⟩
    · rename_i pair
      split
      · rename_i empty
        exact ⟨nofun, fun passes => absurd empty passes.2.2.1⟩
      · rename_i token
        have paired := Decidable.not_not.mp (mt bne_iff_ne.mpr pair)
        exact ⟨fun passes => ⟨domain, paired, token, passes⟩, fun passes => passes.2.2.2⟩

/-! ## What settings make -/

/-- A configuration is what settings ask for, and can be bound. -/
structure Fits (settings : Settings) (configuration : Configuration) : Prop where
  /-- The domain is the one that is set, without the white space around it. -/
  domain : ∃ front back, settings.domain.toList = front ++ configuration.domain.toList ++ back ∧
    ∀ c ∈ front ++ back, Text.isBlank c = true
  domain_ne : configuration.domain ≠ ""
  domain_begins : ∀ c, configuration.domain.toList.head? = some c → Text.isBlank c = false
  domain_ends : ∀ c, configuration.domain.toList.getLast? = some c → Text.isBlank c = false
  address : configuration.address = settings.bindAddress.getD defaultAddress
  /-- Only the socket can refuse the address. -/
  bound : ∃ endpoint, Net.Endpoint.ofString? configuration.address = some endpoint ∧
    ∀ bind, Server.bindAddress bind configuration.address =
      (bind endpoint).mapError (StartFault.bind configuration.address)
  token : ∀ token, settings.token = some token → configuration.token = token
  token_ne : configuration.token ≠ ""
  tls : ∀ files, configuration.tls = some files ↔
    settings.tlsChain = some files.chain ∧ settings.tlsKey = some files.key
  tls_none : configuration.tls = none ↔ settings.tlsChain = none ∧ settings.tlsKey = none
  interactionLog : configuration.interactionLog = settings.interactionLog
  logLevel : configuration.logLevel = settings.logLevel.getD .info

theorem fits_apply {settings : Settings} {generated : String} (flawless : flaw? settings = none)
    (made : generated ≠ "") : Fits settings (apply settings generated) := by
  obtain ⟨⟨c, among, visible⟩, pair, token, endpoint, reads⟩ := flaw?_eq_none_iff.mp flawless
  obtain ⟨front, back, whole, blanks, begins, ends⟩ := Text.exists_trim settings.domain.toList
  rw [apply_eq]
  constructor
  case domain => exact ⟨front, back, by rw [String.toList_ofList]; exact whole, blanks⟩
  case domain_ne =>
    intro empty
    have none : Text.trim settings.domain.toList = [] := by
      rw [← String.toList_ofList (l := Text.trim settings.domain.toList)]
      exact congrArg String.toList empty
    rw [Text.trim_eq_nil_iff.mp none c among] at visible
    cases visible
  case domain_begins =>
    rw [String.toList_ofList]
    exact begins
  case domain_ends =>
    rw [String.toList_ofList]
    exact ends
  case address => rfl
  case bound => exact ⟨endpoint, reads, Server.bindAddress_of_read reads⟩
  case token =>
    intro set same
    rw [same]
    rfl
  case token_ne =>
    intro empty
    cases set : settings.token with
    | none =>
        rw [set] at empty
        exact made empty
    | some text =>
        rw [set] at empty token
        exact token (congrArg some empty)
  case tls =>
    rintro ⟨chain, key⟩
    cases settings.tlsChain <;> cases settings.tlsKey <;> simp
  case tls_none =>
    cases chain : settings.tlsChain <;> cases key : settings.tlsKey <;> rw [chain, key] at pair
    · exact ⟨fun _ => ⟨rfl, rfl⟩, fun _ => rfl⟩
    · cases pair
    · cases pair
    · exact ⟨nofun, nofun⟩
  case interactionLog => rfl
  case logLevel => rfl

theorem ofSettings_eq_ok_iff {settings : Settings} {generated : String} {configuration : Configuration} :
    ofSettings settings generated = .ok configuration ↔
      flaw? settings = none ∧ configuration = apply settings generated := by
  rw [ofSettings]
  cases flaw? settings with
  | none => exact ⟨fun same => ⟨rfl, (Except.ok.inj same).symm⟩, fun ⟨_, same⟩ => congrArg Except.ok same.symm⟩
  | some flaw => exact ⟨nofun, nofun⟩

theorem ofSettings_eq_error_iff {settings : Settings} {generated : String} {fault : StartFault} :
    ofSettings settings generated = .error fault ↔
      ∃ flaw, FirstFault (checks settings) flaw ∧ fault = .invalidConfiguration flaw.message := by
  simp only [← flaw?_eq_some_iff]
  rw [ofSettings]
  cases flaw? settings with
  | none => exact ⟨nofun, nofun⟩
  | some flaw =>
      constructor
      · rintro ⟨⟩
        exact ⟨flaw, rfl, rfl⟩
      · rintro ⟨_, ⟨⟩, rfl⟩
        rfl

/-- Settings make a configuration if and only if the domain is not blank, the files of a certificate are both set or
both unset, the token is not empty where it is set, and the address, which is the default where none is set, can be
read. Otherwise the start reports the first flaw; and what is made is what the settings ask for, and can be bound. -/
theorem ofSettings_checked (settings : Settings) (octets : Fin 16 → UInt8) :
    let made := ofSettings settings (Token.ofRandom (List.ofFn octets))
    ((∃ configuration, made = .ok configuration) ↔
      (∃ c ∈ settings.domain.toList, Text.isBlank c = false) ∧ settings.tlsChain.isSome = settings.tlsKey.isSome ∧
        settings.token ≠ some "" ∧
        ∃ endpoint, Net.Endpoint.ofString? (settings.bindAddress.getD defaultAddress) = some endpoint) ∧
    (∀ fault, made = .error fault ↔
      ∃ flaw, FirstFault (checks settings) flaw ∧ fault = .invalidConfiguration flaw.message) ∧
    ∀ configuration, made = .ok configuration → Fits settings configuration := by
  intro made
  have token : Token.ofRandom (List.ofFn octets) ≠ "" := by
    intro empty
    have length := Token.length_ofRandom (List.ofFn octets)
    rw [empty, List.length_ofFn] at length
    cases length
  refine ⟨?_, fun fault => ofSettings_eq_error_iff, ?_⟩
  · rw [← flaw?_eq_none_iff]
    constructor
    · rintro ⟨configuration, same⟩
      exact (ofSettings_eq_ok_iff.mp same).1
    · exact fun flawless => ⟨_, ofSettings_eq_ok_iff.mpr ⟨flawless, rfl⟩⟩
  · intro configuration same
    obtain ⟨flawless, rfl⟩ := ofSettings_eq_ok_iff.mp same
    exact fits_apply flawless token

/-- A domain with white space around it, and settings of which the first of two flaws is reported. -/
theorem ofSettings_checked_padded :
    let made settings := ofSettings settings (Token.ofRandom (List.ofFn fun _ : Fin 16 => 0))
    let padded : Settings := ⟨" interact.sh\n", none, none, none, none, none, none⟩
    let doubtful : Settings := ⟨"interact.sh", some ":::389", none, some "chain.pem", none, none, none⟩
    (∃ configuration, made padded = .ok configuration ∧ Fits padded configuration) ∧
      made doubtful = .error (.invalidConfiguration "tls_chain and tls_key must be set together") := by
  intro made padded doubtful
  obtain ⟨accepted, _, fits⟩ := ofSettings_checked padded fun _ => 0
  obtain ⟨_, refused, _⟩ := ofSettings_checked doubtful fun _ => 0
  constructor
  · have reads : Net.Endpoint.ofString? defaultAddress = some ⟨.v4 0 0 0 0, 389, 0⟩ := by decide
    obtain ⟨configuration, same⟩ := accepted.mpr ⟨⟨'i', by decide, by decide⟩, rfl, nofun, _, reads⟩
    exact ⟨configuration, same, fits configuration same⟩
  · refine (refused _).mpr ⟨.halfTls, .behind ?_ (.here ⟨nofun, rfl⟩), rfl⟩
    rintro flaw ⟨blank, _⟩
    exact absurd (blank 'i' (by decide)) (by decide)

end Configuration

end Config

end LdapDecoy
