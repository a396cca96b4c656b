import ControlPlane.Proofs.RecordFields
import ControlPlane.Settings.Document

/-!
# Tables of settings

Every setting has a name and a type in documents, a default, and in most cases a variable. The
tables of the three records (`ManagementSettings.table`, `DatabaseSettings.table`,
`Settings.table`) list them all (`Settings.eq_of_valueIn`), and one rule says what a setting is
(`Setting.resolve`): what its variable gives, or else what the document gives, or else the default.

Main statement: a document in which every member has the type of its table is read by that rule
(`Settings.exists_ofJson`), one record after the other (`ManagementSettings.exists_ofJson`,
`DatabaseSettings.exists_ofJson`).
-/

namespace ControlPlane

/-! ## One setting -/

/-- The value of a setting. -/
inductive SettingValue where
  | text (s : String)
  | number (n : Nat)
  deriving DecidableEq

theorem SettingValue.map_text_inj {found found' : Option String} :
    found.map SettingValue.text = found'.map SettingValue.text ↔ found = found' :=
  (Option.map_injective fun _ _ h => SettingValue.text.inj h).eq_iff

/-- The type of a setting. -/
inductive SettingType where
  | text
  | number (bound : Nat)

namespace SettingType

/-- The value that a member of a document gives. -/
def ofJson? : SettingType → Json → Option SettingValue
  | .text, .str s => some (.text s)
  | .number bound, .num (.whole (.ofNat n)) => if n ≤ bound then some (.number n) else none
  | _, _ => none

theorem ofJson?_nat {bound n : Nat} (h : n ≤ bound) :
    (number bound).ofJson? (Json.nat n) = some (.number n) := if_pos h

theorem exists_of_isSome_text {value : Json} (h : (text.ofJson? value).isSome) :
    ∃ s, value = .str s := by
  cases value with
  | str s => exact ⟨s, rfl⟩
  | _ => exact absurd h (by simp [ofJson?])

theorem exists_of_isSome_number {bound : Nat} {value : Json}
    (h : ((number bound).ofJson? value).isSome) : ∃ n, value = Json.nat n ∧ n ≤ bound := by
  unfold ofJson? at h
  split at h
  · exact absurd ‹number bound = text› (by simp)
  · rename_i own n htype
    obtain rfl := SettingType.number.inj htype
    by_cases hle : n ≤ bound
    · exact ⟨n, rfl, hle⟩
    · rw [if_neg hle] at h
      exact absurd h (by simp)
  · exact absurd h (by simp)

/-- The value that the text of a variable gives. -/
def ofText? : SettingType → String → Option SettingValue
  | .text, s => some (.text s)
  | .number bound, s => (Number.readUnsigned bound s.toList).map .number

end SettingType

/-- A setting of a record. -/
structure Setting (ρ : Type) where
  name : String
  type : SettingType
  variableName : Option String
  valueIn : ρ → Option SettingValue

namespace Setting

variable {ρ : Type}

/-- A text. -/
def text (name : String) (variableName : Option String) (field : ρ → String) : Setting ρ :=
  ⟨name, .text, variableName, fun record => some (.text (field record))⟩

/-- A number up to a bound. -/
def number (name : String) (bound : Nat) (variableName : Option String) (field : ρ → Nat) :
    Setting ρ :=
  ⟨name, .number bound, variableName, fun record => some (.number (field record))⟩

/-- A text that may be absent. -/
def optional (name : String) (variableName : Option String) (field : ρ → Option String) :
    Setting ρ :=
  ⟨name, .text, variableName, fun record => (field record).map .text⟩

/-- What the variable of a setting gives. -/
def overriding (setting : Setting ρ) (lookup : Variables) : Option SettingValue :=
  (setting.variableName.bind lookup).bind setting.type.ofText?

/-- What a document gives for a setting. -/
def given (setting : Setting ρ) (look : String → Option Json) : Option SettingValue :=
  (look setting.name).bind setting.type.ofJson?

/-- The one rule: the variable, or else the document, or else the default. -/
def resolve (setting : Setting ρ) (lookup : Variables) (look : String → Option Json)
    (default : ρ) : Option SettingValue :=
  (setting.overriding lookup).or ((setting.given look).or (setting.valueIn default))

/-- Every setting of a table is resolved by the rule. -/
def Resolved (table : List (Setting ρ)) (default : ρ) (lookup : Variables)
    (look : String → Option Json) (record : ρ) : Prop :=
  ∀ setting ∈ table, setting.valueIn record = setting.resolve lookup look default

theorem overriding_none (setting : Setting ρ) : setting.overriding (fun _ => none) = none := by
  unfold overriding
  cases setting.variableName <;> rfl

/-- Defaults are resolved from nothing. -/
theorem resolved_default (table : List (Setting ρ)) (default : ρ) :
    Resolved table default (fun _ => none) (fun _ => none) default := by
  intro setting _
  rw [resolve, overriding_none]
  rfl

/-- Whether a document gives nothing for a setting, or something of its type. -/
def fits (setting : Setting ρ) (look : String → Option Json) : Bool :=
  (look setting.name).all fun member => (setting.type.ofJson? member).isSome

/-- The variable of a number, and its bound. -/
def numberVariable? (setting : Setting ρ) : Option (String × Nat) :=
  match setting.type, setting.variableName with
  | .number bound, some name => some (name, bound)
  | _, _ => none

end Setting

/-! ## The tables -/

/-- The settings of the management server. -/
def ManagementSettings.table : List (Setting ManagementSettings) :=
  [.text "scheme" (some "STRATUS_MGMT_SCHEME") scheme,
    .text "host" (some "STRATUS_MGMT_HOST") host,
    .number "port" portLimit (some "STRATUS_MGMT_PORT") port,
    .text "path" (some "STRATUS_MGMT_PATH") path,
    .text "username" (some "STRATUS_MGMT_USER") username,
    .text "password" (some "STRATUS_MGMT_PASSWORD") password,
    .optional "api_key" (some "STRATUS_API_KEY") apiKey,
    .optional "secret_key" (some "STRATUS_SECRET_KEY") secretKey,
    .number "request_timeout_secs" wordLimit none requestTimeoutSecs]

/-- The settings of the database. -/
def DatabaseSettings.table : List (Setting DatabaseSettings) :=
  [.text "host" (some "STRATUS_DB_HOST") host,
    .number "port" portLimit (some "STRATUS_DB_PORT") port,
    .text "user" (some "STRATUS_DB_USER") user,
    .text "password" (some "STRATUS_DB_PASSWORD") password,
    .text "name" (some "STRATUS_DB_NAME") name]

namespace Settings

/-- The settings that belong to neither. -/
def table : List (Setting Settings) :=
  [.number "async_timeout_secs" wordLimit (some "STRATUS_ASYNC_TIMEOUT") asyncTimeoutSecs,
    .number "poll_interval_ms" wordLimit none pollIntervalMs,
    .number "default_worker_threads" wordLimit (some "STRATUS_WORKER_THREADS") defaultWorkers,
    .optional "hypervisor" (some "STRATUS_HYPERVISOR") hypervisor]

/-- The variables of numbers, and their bounds. -/
def numberVariables : List (String × Nat) :=
  ManagementSettings.table.filterMap Setting.numberVariable? ++
    (DatabaseSettings.table.filterMap Setting.numberVariable? ++
      table.filterMap Setting.numberVariable?)

example : numberVariables =
    [("STRATUS_MGMT_PORT", portLimit), ("STRATUS_DB_PORT", portLimit),
      ("STRATUS_ASYNC_TIMEOUT", wordLimit), ("STRATUS_WORKER_THREADS", wordLimit)] := rfl

end Settings

theorem ManagementSettings.eq_of_valueIn {settings settings' : ManagementSettings}
    (h : ∀ setting ∈ table, setting.valueIn settings = setting.valueIn settings') :
    settings = settings' := by
  obtain ⟨_, _, _, _, _, _, _, _, _⟩ := settings
  obtain ⟨_, _, _, _, _, _, _, _, _⟩ := settings'
  simpa [table, Setting.text, Setting.number, Setting.optional, SettingValue.map_text_inj] using h

theorem DatabaseSettings.eq_of_valueIn {settings settings' : DatabaseSettings}
    (h : ∀ setting ∈ table, setting.valueIn settings = setting.valueIn settings') :
    settings = settings' := by
  obtain ⟨_, _, _, _, _⟩ := settings
  obtain ⟨_, _, _, _, _⟩ := settings'
  simpa [table, Setting.text, Setting.number] using h

theorem Settings.eq_of_valueIn {settings settings' : Settings}
    (hmanagement : settings.management = settings'.management)
    (hdatabase : settings.database = settings'.database)
    (h : ∀ setting ∈ table, setting.valueIn settings = setting.valueIn settings') :
    settings = settings' := by
  obtain ⟨_, _, _, _, _, _⟩ := settings
  obtain ⟨_, _, _, _, _, _⟩ := settings'
  obtain rfl := hmanagement
  obtain rfl := hdatabase
  simpa [table, Setting.number, Setting.optional, SettingValue.map_text_inj] using h

/-! ## Records that are read -/

namespace Json

variable {α : Type}

/-- Whether a value may stand for a record. -/
def isRecord : Json → Bool
  | .obj _ => true
  | .arr _ => true
  | _ => false

/-- The member of a record, by its name in an object and by its place in an array. -/
def Shape.look (shape : Shape) : Json → String → Option Json
  | .obj members, name => Dictionary.find? name members
  | .arr items, name => items[shape.fields.idxOf name]?
  | _, _ => none

/-- The member of a record that may be absent. -/
def Shape.lookIn (shape : Shape) (found : Option Json) (name : String) : Option Json :=
  found.bind (shape.look · name)

theorem decodeOptional_of_isRecord {item : Json → Decoded α} {value : Json}
    (h : value.isRecord) : decodeOptional item value = (item value).map some := by
  cases value with
  | null => exact absurd h (by simp [isRecord])
  | _ => rfl

theorem Shape.decode_of_look {shape : Shape} {reader : FieldReader α} {value : Json} {a : α}
    (hrecord : value.isRecord) (h : reader (shape.look value) = .ok a) :
    shape.decode .ignored reader value = .ok a := by
  cases value with
  | obj members => exact decode_obj_eq_ok.2 h
  | arr items =>
    have hread : (reader fun name => items[shape.fields.idxOf name]?) = .ok a := h
    simp only [decode, hread]
    exact if_neg fun hrefused => absurd hrefused.1 (by decide)
  | _ => exact absurd hrecord (by simp [isRecord])

end Json

namespace Setting

open Json FieldReader

variable {ρ : Type} {name : String} {variableName : Option String} {look : String → Option Json}

/-- A member that fits is read as what the document gives, and without it there is the default. -/
theorem exists_withDefault {α : Type} {setting : Setting ρ} {item : Json → Decoded α}
    {wrap : α → Option SettingValue} (default : α) (h : setting.fits look)
    (hitem : ∀ member, (setting.type.ofJson? member).isSome →
      ∃ a, item member = .ok a ∧ wrap a = setting.type.ofJson? member) :
    ∃ a, withDefault setting.name default item look = .ok a ∧
      wrap a = (setting.given look).or (wrap default) := by
  unfold fits at h
  unfold given
  cases hfound : look setting.name with
  | none => exact ⟨default, by simp [withDefault, hfound], rfl⟩
  | some member =>
    rw [hfound, Option.all_some] at h
    obtain ⟨a, hread, hvalue⟩ := hitem member h
    refine ⟨a, withDefault_ok hfound _ hread, ?_⟩
    rw [hvalue, Option.bind_some, Option.or_of_isSome h]

theorem exists_text {field : ρ → String} (default : String)
    (h : (Setting.text name variableName field).fits look) :
    ∃ s, withDefault name default decodeText look = .ok s ∧
      some (SettingValue.text s) =
        ((Setting.text name variableName field).given look).or (some (.text default)) := by
  refine exists_withDefault default h ?_
  intro member hmember
  obtain ⟨s, rfl⟩ := SettingType.exists_of_isSome_text hmember
  exact ⟨s, rfl, rfl⟩

theorem exists_optional {field : ρ → Option String}
    (h : (Setting.optional name variableName field).fits look) :
    ∃ found, FieldReader.optional name decodeText look = .ok found ∧
      found.map SettingValue.text =
        ((Setting.optional name variableName field).given look).or none := by
  refine exists_withDefault none h ?_
  intro member hmember
  obtain ⟨s, rfl⟩ := SettingType.exists_of_isSome_text hmember
  exact ⟨some s, rfl, rfl⟩

theorem exists_number {bound : Nat} {field : ρ → Nat} (type : String) (default : Nat)
    (h : (Setting.number name bound variableName field).fits look) :
    ∃ n, withDefault name default (decodeUnsigned type bound) look = .ok n ∧
      some (SettingValue.number n) =
        ((Setting.number name bound variableName field).given look).or
          (some (.number default)) := by
  refine exists_withDefault default h ?_
  intro member hmember
  obtain ⟨n, rfl, hle⟩ := SettingType.exists_of_isSome_number hmember
  exact ⟨n, decodeUnsigned_nat hle, (SettingType.ofJson?_nat hle).symm⟩

end Setting

/-- A record that gives any of the settings of a table, each in its type. -/
structure Setting.Fits {ρ : Type} (table : List (Setting ρ)) (shape : Json.Shape) (value : Json) :
    Prop where
  isRecord : value.isRecord
  fits : ∀ setting ∈ table, setting.fits (shape.look value)

/-- A document that gives any of the settings, each in its type. -/
structure Settings.Fits (document : Json) : Prop where
  management : ∀ value, Settings.shape.look document "management" = some value →
    Setting.Fits ManagementSettings.table ManagementSettings.shape value
  database : ∀ value, Settings.shape.look document "database" = some value →
    Setting.Fits DatabaseSettings.table DatabaseSettings.shape value
  rest : Setting.Fits Settings.table Settings.shape document

section Reading

open Json FieldReader

theorem ManagementSettings.exists_ofJson {value : Json} (h : Setting.Fits table shape value) :
    ∃ settings, ofJson .ignored value = .ok settings ∧
      Setting.Resolved table {} (fun _ => none) (shape.look value) settings := by
  have hfits := h.fits
  simp only [table, Setting.Resolved, List.forall_mem_cons] at hfits ⊢
  obtain ⟨hscheme, hhost, hport, hpath, husername, hpassword, hapiKey, hsecretKey, htimeout, -⟩ :=
    hfits
  obtain ⟨scheme, hscheme, vscheme⟩ := Setting.exists_text (scheme {}) hscheme
  obtain ⟨host, hhost, vhost⟩ := Setting.exists_text (host {}) hhost
  obtain ⟨port, hport, vport⟩ := Setting.exists_number "u16" (port {}) hport
  obtain ⟨path, hpath, vpath⟩ := Setting.exists_text (path {}) hpath
  obtain ⟨username, husername, vusername⟩ := Setting.exists_text (username {}) husername
  obtain ⟨password, hpassword, vpassword⟩ := Setting.exists_text (password {}) hpassword
  obtain ⟨apiKey, hapiKey, vapiKey⟩ := Setting.exists_optional hapiKey
  obtain ⟨secretKey, hsecretKey, vsecretKey⟩ := Setting.exists_optional hsecretKey
  obtain ⟨timeout, htimeout, vtimeout⟩ :=
    Setting.exists_number "u64" (requestTimeoutSecs {}) htimeout
  refine ⟨⟨scheme, host, port, path, username, password, apiKey, secretKey, timeout⟩, ?_, ?_⟩
  · refine Shape.decode_of_look h.isRecord ?_
    exact seq_ok (seq_ok (seq_ok (seq_ok (seq_ok (seq_ok (seq_ok (seq_ok (map_ok _ hscheme) hhost)
      hport) hpath) husername) hpassword) hapiKey) hsecretKey) htimeout
  · exact ⟨vscheme, vhost, vport, vpath, vusername, vpassword, vapiKey, vsecretKey, vtimeout,
      List.forall_mem_nil _⟩

theorem DatabaseSettings.exists_ofJson {value : Json} (h : Setting.Fits table shape value) :
    ∃ settings, ofJson .ignored value = .ok settings ∧
      Setting.Resolved table {} (fun _ => none) (shape.look value) settings := by
  have hfits := h.fits
  simp only [table, Setting.Resolved, List.forall_mem_cons] at hfits ⊢
  obtain ⟨hhost, hport, huser, hpassword, hname, -⟩ := hfits
  obtain ⟨host, hhost, vhost⟩ := Setting.exists_text (host {}) hhost
  obtain ⟨port, hport, vport⟩ := Setting.exists_number "u16" (port {}) hport
  obtain ⟨user, huser, vuser⟩ := Setting.exists_text (user {}) huser
  obtain ⟨password, hpassword, vpassword⟩ := Setting.exists_text (password {}) hpassword
  obtain ⟨name, hname, vname⟩ := Setting.exists_text (name {}) hname
  refine ⟨⟨host, port, user, password, name⟩, ?_, ?_⟩
  · refine Shape.decode_of_look h.isRecord ?_
    exact seq_ok (seq_ok (seq_ok (seq_ok (map_ok _ hhost) hport) huser) hpassword) hname
  · exact ⟨vhost, vport, vuser, vpassword, vname, List.forall_mem_nil _⟩

/-- Settings are resolved from a document and variables, and have a database if the document has
one or a variable of it counts. -/
structure Settings.ResolvedFrom (document : Json) (lookup : Variables) (settings : Settings) :
    Prop where
  management : Setting.Resolved ManagementSettings.table {} lookup
    (ManagementSettings.shape.lookIn (shape.look document "management")) settings.management
  database : ∀ database, settings.database = some database →
    Setting.Resolved DatabaseSettings.table {} lookup
      (DatabaseSettings.shape.lookIn (shape.look document "database")) database
  isSome_database : settings.database.isSome ↔ (shape.look document "database").isSome ∨
    ∃ setting ∈ DatabaseSettings.table, (setting.overriding lookup).isSome
  rest : Setting.Resolved table {} lookup (shape.look document) settings

section Member

variable {look : String → Option Json}

/-- Without a member for the management server there are the defaults. -/
theorem ManagementSettings.exists_member {name : String}
    (h : ∀ value, look name = some value → Setting.Fits table shape value) :
    ∃ settings, withDefault name {} (ofJson .ignored) look = .ok settings ∧
      Setting.Resolved table {} (fun _ => none) (shape.lookIn (look name)) settings := by
  cases hfound : look name with
  | none => exact ⟨{}, by simp [withDefault, hfound], Setting.resolved_default _ _⟩
  | some value =>
    obtain ⟨settings, hread, hresolved⟩ := exists_ofJson (h value hfound)
    exact ⟨settings, withDefault_ok hfound _ hread, hresolved⟩

/-- Without a member for the database there is none. -/
theorem DatabaseSettings.exists_member {name : String}
    (h : ∀ value, look name = some value → Setting.Fits table shape value) :
    ∃ found, FieldReader.optional name (ofJson .ignored) look = .ok found ∧
      found.isSome = (look name).isSome ∧ ∀ settings, found = some settings →
        Setting.Resolved table {} (fun _ => none) (shape.lookIn (look name)) settings := by
  cases hfound : look name with
  | none => exact ⟨none, by simp [FieldReader.optional, withDefault, hfound], rfl, nofun⟩
  | some value =>
    obtain ⟨own, hread, hresolved⟩ := exists_ofJson (h value hfound)
    refine ⟨some own, optional_ok hfound ?_, rfl, ?_⟩
    · rw [decodeOptional_of_isRecord (h value hfound).isRecord, hread]
      rfl
    · intro settings hown
      obtain rfl := Option.some.inj hown
      exact hresolved

end Member

theorem Settings.exists_ofJson {document : Json} (h : Fits document) :
    ∃ settings, ofJson .ignored document = .ok settings ∧
      ResolvedFrom document (fun _ => none) settings := by
  obtain ⟨management, hmanagement, vmanagement⟩ := ManagementSettings.exists_member h.management
  obtain ⟨database, hdatabase, hisSome, vdatabase⟩ := DatabaseSettings.exists_member h.database
  have hfits := h.rest.fits
  simp only [table, List.forall_mem_cons] at hfits
  obtain ⟨htimeout, hinterval, hworkers, hhypervisor, -⟩ := hfits
  obtain ⟨timeout, htimeout, vtimeout⟩ := Setting.exists_number "u64" (asyncTimeoutSecs {}) htimeout
  obtain ⟨interval, hinterval, vinterval⟩ :=
    Setting.exists_number "u64" (pollIntervalMs {}) hinterval
  obtain ⟨workers, hworkers, vworkers⟩ :=
    Setting.exists_number "usize" (defaultWorkers {}) hworkers
  obtain ⟨hypervisor, hhypervisor, vhypervisor⟩ := Setting.exists_optional hhypervisor
  refine ⟨⟨management, database, timeout, interval, workers, hypervisor⟩, ?_, ?_⟩
  · refine Shape.decode_of_look h.rest.isRecord ?_
    exact seq_ok (seq_ok (seq_ok (seq_ok (seq_ok (map_ok _ hmanagement) hdatabase) htimeout)
      hinterval) hworkers) hhypervisor
  · refine ⟨vmanagement, vdatabase, ?_, ?_⟩
    · simp only [hisSome, Setting.overriding_none]
      simp
    · simp only [table, Setting.Resolved, List.forall_mem_cons]
      exact ⟨vtimeout, vinterval, vworkers, vhypervisor, List.forall_mem_nil _⟩

end Reading

end ControlPlane
