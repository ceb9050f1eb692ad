import LdapDecoy.Config.Configuration

/-!
# Updates of a configuration

A configuration is changed one field at a time, in any order and as often as one likes. Where it ends is settled field
by field: an address and a token stay as they are where an update leaves them unset, and the other fields follow their
last update in that too. So updates of different fields can be swapped, and one that is repeated changes nothing.
-/
namespace LdapDecoy.Config

/-- The fields of a configuration that can be changed. -/
inductive Field where
  | address
  | token
  | tls
  | interactionLog
  | logLevel
  deriving DecidableEq, Repr

/-- A change of one field, whose new value can be left unset. -/
inductive Update where
  | address (given : Option String)
  | token (given : Option String)
  | tls (chain key : Option String)
  | interactionLog (given : Option String)
  | logLevel (given : Option LogLevel)
  deriving DecidableEq, Repr

namespace Update

def field : Update → Field
  | address _ => .address
  | token _ => .token
  | tls _ _ => .tls
  | interactionLog _ => .interactionLog
  | logLevel _ => .logLevel

/-- The address that an update sets. -/
def address? : Update → Option String
  | address given => given
  | token _ | tls _ _ | interactionLog _ | logLevel _ => none

/-- The token that an update sets. -/
def token? : Update → Option String
  | token given => given
  | address _ | tls _ _ | interactionLog _ | logLevel _ => none

/-- The chain and the key of an update of the certificate, each set or unset. -/
def tls? : Update → Option (Option String × Option String)
  | tls chain key => some (chain, key)
  | address _ | token _ | interactionLog _ | logLevel _ => none

/-- The path of an update of the log, set or unset. -/
def interactionLog? : Update → Option (Option String)
  | interactionLog given => some given
  | address _ | token _ | tls _ _ | logLevel _ => none

/-- The level of an update of it, set or unset. -/
def logLevel? : Update → Option (Option LogLevel)
  | logLevel given => some given
  | address _ | token _ | tls _ _ | interactionLog _ => none

/-- The files of a chain and a key, which count only together. -/
def files? : Option String × Option String → Option Tls.FileProvider
  | (some chain, some key) => some ⟨chain, key⟩
  | (some _, none) | (none, _) => none

theorem files?_eq_some_iff {given : Option String × Option String} {files : Tls.FileProvider} :
    files? given = some files ↔ given = (some files.chain, some files.key) := by
  obtain ⟨chain, key⟩ := files
  rcases given with ⟨_ | _, _ | _⟩ <;> simp [files?]

/-- What settings say of each field. -/
def ofSettings (settings : Settings) : List Update :=
  [address settings.bindAddress, token settings.token, tls settings.tlsChain settings.tlsKey,
    interactionLog settings.interactionLog, logLevel settings.logLevel]

/-- The last of what is said goes before what was there. -/
theorem getLastD_filterMap_cons {α : Type} (said : Update → Option α) (start : α) (first : Update)
    (later : List Update) :
    ((first :: later).filterMap said).getLastD start =
      (later.filterMap said).getLastD ((said first).getD start) := by
  rw [List.filterMap_cons]
  cases said first with
  | none => rfl
  | some given => rw [List.getLastD_cons, Option.getD_some]

end Update

namespace Configuration

def update (configuration : Configuration) : Update → Configuration
  | .address given => configuration.updateAddress given
  | .token given => configuration.updateToken given
  | .tls chain key => configuration.updateTls chain key
  | .interactionLog given => configuration.updateInteractionLog given
  | .logLevel given => configuration.updateLogLevel given

def updateAll (configuration : Configuration) (updates : List Update) : Configuration :=
  updates.foldl update configuration

/-- What settings make comes of an update for each field. -/
theorem apply_eq_updateAll (settings : Settings) (generated : String) :
    apply settings generated =
      (new (String.ofList (Text.trim settings.domain.toList)) generated).updateAll (Update.ofSettings settings) :=
  rfl

variable (configuration : Configuration)

/-! ## What updates do -/

theorem update_eq (update : Update) :
    configuration.update update =
      { domain := configuration.domain
        address := update.address?.getD configuration.address
        token := update.token?.getD configuration.token
        tls := (update.tls?.map Update.files?).getD configuration.tls
        interactionLog := update.interactionLog?.getD configuration.interactionLog
        logLevel := (update.logLevel?.map (·.getD .info)).getD configuration.logLevel } := by
  cases update with
  | tls chain key => cases chain <;> cases key <;> rfl
  | address _ | token _ | interactionLog _ | logLevel _ => rfl

theorem updateAll_cons (first : Update) (later : List Update) :
    configuration.updateAll (first :: later) = (configuration.update first).updateAll later := rfl

theorem updateAll_eq (updates : List Update) :
    configuration.updateAll updates =
      { domain := configuration.domain
        address := (updates.filterMap Update.address?).getLastD configuration.address
        token := (updates.filterMap Update.token?).getLastD configuration.token
        tls := ((updates.filterMap Update.tls?).map Update.files?).getLastD configuration.tls
        interactionLog := (updates.filterMap Update.interactionLog?).getLastD configuration.interactionLog
        logLevel := ((updates.filterMap Update.logLevel?).map (·.getD .info)).getLastD configuration.logLevel } := by
  -- From the front: what the first update leaves is what the later ones start from.
  induction updates generalizing configuration with
  | nil => rfl
  | cons first later ih =>
      rw [updateAll_cons, ih, update_eq]
      simp only [List.map_filterMap, Update.getLastD_filterMap_cons]

/-! ## Updates in another order -/

variable {configuration} {first second update : Update}

theorem update_comm (apart : first.field ≠ second.field) :
    (configuration.update first).update second = (configuration.update second).update first := by
  rw [update_eq, update_eq, update_eq, update_eq]
  cases first <;> cases second <;> first | rfl | exact absurd rfl apart

theorem update_update : (configuration.update update).update update = configuration.update update := by
  cases update with
  | address given | token given => cases given <;> rfl
  | tls chain key => cases chain <;> cases key <;> rfl
  | interactionLog _ | logLevel _ => rfl

/-- An update can be made before others as well as behind them, if they are of other fields. -/
theorem updateAll_update {between : List Update} (apart : ∀ other ∈ between, other.field ≠ update.field) :
    (configuration.updateAll between).update update = (configuration.update update).updateAll between := by
  induction between generalizing configuration with
  | nil => rfl
  | cons first later ih =>
      obtain ⟨front, behind⟩ := List.forall_mem_cons.mp apart
      rw [updateAll_cons, updateAll_cons, ih behind, update_comm front]

/-! ## Where updates end -/

/-- Updates of a new configuration settle each field by what they say of it. The address and the token are the last that
are set; the files are those of the last update of them, if it sets both; the path and the level are those of the last
update of them, where unset means no log and the default level; the domain stays. Updates of different fields can be
swapped, and one that is made again changes nothing, if all updates since have been of other fields. -/
theorem updateAll_settled (domain generated : String) (updates : List Update) :
    let settled := (new domain generated).updateAll updates
    settled.domain = domain ∧
    settled.address = (updates.filterMap Update.address?).getLastD defaultAddress ∧
    settled.token = (updates.filterMap Update.token?).getLastD generated ∧
    (∀ files, settled.tls = some files ↔
      (updates.filterMap Update.tls?).getLastD (none, none) = (some files.chain, some files.key)) ∧
    settled.interactionLog = (updates.filterMap Update.interactionLog?).getLastD none ∧
    settled.logLevel = ((updates.filterMap Update.logLevel?).getLastD none).getD .info ∧
    (∀ first second : Update, first.field ≠ second.field →
      (settled.update first).update second = (settled.update second).update first) ∧
    ∀ (update : Update) (between : List Update), (∀ other ∈ between, other.field ≠ update.field) →
      let once := (settled.update update).updateAll between
      once.update update = once := by
  intro settled
  have fields := updateAll_eq (new domain generated) updates
  refine ⟨congrArg Configuration.domain fields, congrArg address fields, congrArg token fields, ?_,
    congrArg interactionLog fields, ?_, fun first second => update_comm, ?_⟩
  · intro files
    have last : settled.tls =
        ((updates.filterMap Update.tls?).map Update.files?).getLastD (Update.files? (none, none)) :=
      congrArg tls fields
    rw [last, List.getLastD_map, Update.files?_eq_some_iff]
  · have last : settled.logLevel =
        ((updates.filterMap Update.logLevel?).map (·.getD .info)).getLastD (none.getD .info) :=
      congrArg logLevel fields
    rw [last, List.getLastD_map]
  · intro update between apart once
    rw [updateAll_update apart, update_update]

/-- The updates of one file of settings and then of another: the address and the token stay, the log goes, and with half
of the files all of them. -/
theorem updateAll_settled_twice :
    let before : Settings := ⟨"example.test", some "127.0.0.1:389", some "token", some "chain.pem", some "key.pem",
      some "records.jsonl", some .trace⟩
    let after : Settings := ⟨"example.test", none, none, some "new.pem", none, none, none⟩
    let settled := (new "example.test" "made").updateAll (Update.ofSettings before ++ Update.ofSettings after)
    settled.domain = "example.test" ∧ settled.address = "127.0.0.1:389" ∧ settled.token = "token" ∧
      settled.tls = none ∧ settled.interactionLog = none ∧ settled.logLevel = .info ∧
      (settled.update (.token (some "other"))).update (.logLevel none) =
        (settled.update (.logLevel none)).update (.token (some "other")) ∧
      let once := (settled.update (.address none)).updateAll [.interactionLog (some "records.jsonl")]
      once.update (.address none) = once := by
  intro before after settled
  obtain ⟨domain, address, token, files, path, level, swapped, repeated⟩ :=
    updateAll_settled "example.test" "made" (Update.ofSettings before ++ Update.ofSettings after)
  refine ⟨domain, address, token, ?_, path, level, swapped _ _ (by decide), repeated _ _ (by decide)⟩
  refine Option.eq_none_iff_forall_ne_some.mpr fun found same => ?_
  cases congrArg Prod.snd ((files found).mp same)

end Configuration

end LdapDecoy.Config
