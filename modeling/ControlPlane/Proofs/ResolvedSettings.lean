import ControlPlane.Proofs.SettingTables
import Mathlib.Logic.Function.Basic

/-!
# Where settings come from

Variables override settings by the rule of the tables (`ManagementSettings.valueIn_override` and its
likes), and a database comes into being if a variable of it gives something
(`DatabaseSettings.isNamed_iff`). So settings that were read from a document are resolved from the
document and the variables (`Settings.resolvedFrom_override`), and no others are
(`Settings.resolvedFrom_unique`).

Main statement: `Settings.exists_resolvedFrom`, for every document that gives any of the settings.
-/

namespace ControlPlane

/-! ## Records that are overridden -/

namespace Setting

variable {ρ : Type} {table : List (Setting ρ)} {default record record' : ρ} {lookup : Variables}
  {look : String → Option Json} {name variableName : String}

/-- A record whose variables win is resolved from them. -/
theorem resolved_of_valueIn (h : Resolved table default (fun _ => none) look record)
    (hwin : ∀ setting ∈ table,
      setting.valueIn record' = (setting.overriding lookup).or (setting.valueIn record)) :
    Resolved table default lookup look record' := by
  intro setting hsetting
  rw [hwin setting hsetting, h setting hsetting, resolve, overriding_none, Option.none_or, resolve]

theorem overriding_text (field : ρ → String) :
    (Setting.text name (some variableName) field).overriding lookup =
      (lookup variableName).map .text := by
  simp only [text, overriding, Option.bind_some]
  cases lookup variableName <;> rfl

theorem overriding_optional (field : ρ → Option String) :
    (Setting.optional name (some variableName) field).overriding lookup =
      (lookup variableName).map .text := by
  simp only [optional, overriding, Option.bind_some]
  cases lookup variableName <;> rfl

theorem overriding_number (bound : Nat) (field : ρ → Nat) :
    (Setting.number name bound (some variableName) field).overriding lookup =
      (lookup.number? bound variableName).map .number := by
  simp only [number, overriding, Option.bind_some, Variables.number?]
  cases lookup variableName <;> rfl

theorem valueIn_text {field : ρ → String}
    (h : field record' = (lookup variableName).getD (field record)) :
    (Setting.text name (some variableName) field).valueIn record' =
      ((Setting.text name (some variableName) field).overriding lookup).or
        ((Setting.text name (some variableName) field).valueIn record) := by
  rw [overriding_text]
  simp only [text, h]
  cases lookup variableName <;> rfl

theorem valueIn_optional {field : ρ → Option String}
    (h : field record' = lookup.orElse variableName (field record)) :
    (Setting.optional name (some variableName) field).valueIn record' =
      ((Setting.optional name (some variableName) field).overriding lookup).or
        ((Setting.optional name (some variableName) field).valueIn record) := by
  rw [overriding_optional]
  simp only [optional, h, Variables.orElse]
  cases lookup variableName <;> rfl

theorem valueIn_number {bound : Nat} {field : ρ → Nat}
    (h : field record' = (lookup.number? bound variableName).getD (field record)) :
    (Setting.number name bound (some variableName) field).valueIn record' =
      ((Setting.number name bound (some variableName) field).overriding lookup).or
        ((Setting.number name bound (some variableName) field).valueIn record) := by
  rw [overriding_number]
  simp only [number, h]
  cases lookup.number? bound variableName <;> rfl

end Setting

section Overriding

variable (lookup : Variables)

theorem ManagementSettings.valueIn_override (settings : ManagementSettings) :
    ∀ setting ∈ table, setting.valueIn (settings.override lookup) =
      (setting.overriding lookup).or (setting.valueIn settings) := by
  simp only [table, List.forall_mem_cons]
  refine ⟨Setting.valueIn_text rfl, Setting.valueIn_text rfl, Setting.valueIn_number rfl,
    Setting.valueIn_text rfl, Setting.valueIn_text rfl, Setting.valueIn_text rfl,
    Setting.valueIn_optional rfl, Setting.valueIn_optional rfl, ?_, List.forall_mem_nil _⟩
  rfl

theorem DatabaseSettings.valueIn_override (settings : DatabaseSettings) :
    ∀ setting ∈ table, setting.valueIn (settings.override lookup) =
      (setting.overriding lookup).or (setting.valueIn settings) := by
  simp only [table, List.forall_mem_cons]
  exact ⟨Setting.valueIn_text rfl, Setting.valueIn_number rfl, Setting.valueIn_text rfl,
    Setting.valueIn_text rfl, Setting.valueIn_text rfl, List.forall_mem_nil _⟩

theorem Settings.valueIn_override (settings : Settings) :
    ∀ setting ∈ table, setting.valueIn (settings.override lookup) =
      (setting.overriding lookup).or (setting.valueIn settings) := by
  simp only [table, List.forall_mem_cons]
  refine ⟨Setting.valueIn_number rfl, ?_, Setting.valueIn_number rfl, Setting.valueIn_optional rfl,
    List.forall_mem_nil _⟩
  rfl

/-- A variable of the database counts if it gives something. -/
theorem DatabaseSettings.isNamed_iff :
    isNamed lookup ↔ ∃ setting ∈ table, (setting.overriding lookup).isSome := by
  simp [isNamed, table, Setting.overriding_text, Setting.overriding_number, or_assoc]

section Database

variable {settings : Settings} {given : DatabaseSettings}

theorem Settings.database_override (h : settings.database = some given) :
    (settings.override lookup).database = some (given.override lookup) := by
  simp only [override, h]

theorem Settings.database_override_of_none (h : settings.database = none) :
    (settings.override lookup).database =
      if DatabaseSettings.isNamed lookup then some (DatabaseSettings.override lookup {})
      else none := by
  simp only [override, h]

end Database

/-- Variables win over settings that were resolved without them. -/
theorem Settings.resolvedFrom_override {document : Json} {settings : Settings}
    (h : ResolvedFrom document (fun _ => none) settings) :
    ResolvedFrom document lookup (settings.override lookup) := by
  have hgiven : settings.database.isSome ↔ (shape.look document "database").isSome := by
    simpa [Setting.overriding_none] using h.isSome_database
  refine ⟨?management, ?database, ?isSome_database, ?rest⟩
  case management =>
    exact Setting.resolved_of_valueIn h.management
      (ManagementSettings.valueIn_override lookup settings.management)
  case database =>
    intro database hdatabase
    cases howns : settings.database with
    | some own =>
      rw [database_override lookup howns] at hdatabase
      obtain rfl := Option.some.inj hdatabase
      exact Setting.resolved_of_valueIn (h.database own howns)
        (DatabaseSettings.valueIn_override lookup own)
    | none =>
      -- Without a database in the settings there is none in the document.
      have habsent : shape.look document "database" = none := by
        rw [howns] at hgiven
        exact Option.not_isSome_iff_eq_none.1 fun hsome => absurd (hgiven.2 hsome) (by simp)
      rw [database_override_of_none lookup howns] at hdatabase
      rw [habsent]
      split at hdatabase
      · obtain rfl := Option.some.inj hdatabase
        exact Setting.resolved_of_valueIn (Setting.resolved_default _ _)
          (DatabaseSettings.valueIn_override lookup {})
      · exact absurd hdatabase (by simp)
  case isSome_database =>
    rw [← hgiven, ← DatabaseSettings.isNamed_iff]
    cases howns : settings.database with
    | some own => simp [database_override lookup howns]
    | none => simp [database_override_of_none lookup howns]
  case rest => exact Setting.resolved_of_valueIn h.rest (valueIn_override lookup settings)

/-! ## The same variables again -/

theorem Variables.getD_getD {α : Type} (found : Option α) (a : α) :
    found.getD (found.getD a) = found.getD a := by
  cases found <;> rfl

theorem Variables.orElse_orElse (name : String) (found : Option String) :
    lookup.orElse name (lookup.orElse name found) = lookup.orElse name found := by
  unfold orElse
  cases lookup name <;> rfl

theorem ManagementSettings.override_override (settings : ManagementSettings) :
    (settings.override lookup).override lookup = settings.override lookup := by
  simp only [override, Variables.getD_getD, Variables.orElse_orElse]

theorem DatabaseSettings.override_override (settings : DatabaseSettings) :
    (settings.override lookup).override lookup = settings.override lookup := by
  simp only [override, Variables.getD_getD]

theorem Settings.override_override (settings : Settings) :
    (settings.override lookup).override lookup = settings.override lookup := by
  obtain ⟨management, database, timeout, interval, workers, hypervisor⟩ := settings
  cases database with
  | some given =>
    simp only [override, ManagementSettings.override_override, DatabaseSettings.override_override,
      Variables.getD_getD, Variables.orElse_orElse]
  | none =>
    by_cases hnamed : DatabaseSettings.isNamed lookup
    · simp only [override, ManagementSettings.override_override, if_pos hnamed,
        DatabaseSettings.override_override, Variables.getD_getD, Variables.orElse_orElse]
    · simp only [override, ManagementSettings.override_override, if_neg hnamed,
        Variables.getD_getD, Variables.orElse_orElse]

/-! ## Variables that give nothing -/

/-- Two look-ups that give the same texts and numbers. -/
structure Variables.Alike (lookup lookup' : Variables) : Prop where
  text : ∀ name, name ∉ Settings.numberVariables.map Prod.fst → lookup' name = lookup name
  number : ∀ name bound, (name, bound) ∈ Settings.numberVariables →
    lookup'.number? bound name = lookup.number? bound name

section Alike

variable {lookup} {lookup' : Variables} (h : lookup.Alike lookup')

include h

theorem ManagementSettings.override_congr (settings : ManagementSettings) :
    settings.override lookup' = settings.override lookup := by
  simp (disch := decide) only [override, Variables.orElse, h.text, h.number]

theorem DatabaseSettings.override_congr (settings : DatabaseSettings) :
    settings.override lookup' = settings.override lookup := by
  simp (disch := decide) only [override, h.text, h.number]

theorem DatabaseSettings.isNamed_congr : isNamed lookup' = isNamed lookup := by
  simp (disch := decide) only [isNamed, h.text, h.number]

theorem Settings.override_congr (settings : Settings) :
    settings.override lookup' = settings.override lookup := by
  simp (disch := decide) only [override, Variables.orElse, h.text, h.number,
    ManagementSettings.override_congr h, DatabaseSettings.override_congr h,
    DatabaseSettings.isNamed_congr h]

end Alike

/-- A number variable whose text is no number in range is as good as absent. -/
theorem Variables.alike_update {name s : String} {bound : Nat}
    (hname : (name, bound) ∈ Settings.numberVariables) (htext : lookup name = some s)
    (hread : Number.readUnsigned bound s.toList = none) :
    lookup.Alike (Function.update lookup name none) := by
  have hone : ∀ p ∈ Settings.numberVariables, ∀ q ∈ Settings.numberVariables,
      p.1 = q.1 → p = q := by decide
  constructor
  · intro name' hname'
    refine Function.update_of_ne ?_ _ _
    rintro rfl
    exact hname' (List.mem_map_of_mem hname)
  · intro name' bound' hname'
    by_cases hsame : name' = name
    · obtain rfl : bound' = bound := congrArg Prod.snd (hone _ hname' _ hname hsame)
      simp only [number?, hsame, Function.update_self, htext, Option.bind_some, Option.bind_none,
        hread]
    · simp only [number?, Function.update_of_ne hsame]

end Overriding

/-! ## The rule says everything -/

/-- Settings that are resolved from the same document and variables are the same. -/
theorem Settings.resolvedFrom_unique {document : Json} {lookup : Variables}
    {settings settings' : Settings} (h : ResolvedFrom document lookup settings)
    (h' : ResolvedFrom document lookup settings') : settings = settings' := by
  have hmanagement : settings.management = settings'.management :=
    ManagementSettings.eq_of_valueIn fun setting hmem =>
      (h.management setting hmem).trans (h'.management setting hmem).symm
  have hdatabase : settings.database = settings'.database := by
    have hiff := h.isSome_database.trans h'.isSome_database.symm
    cases hown : settings.database with
    | none =>
      rw [hown] at hiff
      exact (Option.not_isSome_iff_eq_none.1 fun hsome => absurd (hiff.2 hsome) (by simp)).symm
    | some own =>
      obtain ⟨own', hown'⟩ := Option.isSome_iff_exists.1 (hiff.1 (hown ▸ rfl))
      rw [hown', DatabaseSettings.eq_of_valueIn fun setting hmem =>
        (h.database own hown setting hmem).trans (h'.database own' hown' setting hmem).symm]
  exact eq_of_valueIn hmanagement hdatabase fun setting hmem =>
    (h.rest setting hmem).trans (h'.rest setting hmem).symm

/-! ## From a document and variables -/

/-- Whatever document gives any of the settings, each in its type, the settings after it and any
variables are those that are resolved from both. The same variables again change nothing, and a
number variable whose text is no number in range is as good as absent. -/
theorem Settings.exists_resolvedFrom {text : String} {entries : Toml.Entries}
    (hparse : Toml.parse text = some entries) (hfits : Fits (.obj (Toml.entriesToJson entries))) :
    ∃ given, ofDocument text = .ok given ∧ ∀ lookup : Variables,
      (∀ settings, ResolvedFrom (.obj (Toml.entriesToJson entries)) lookup settings ↔
        settings = given.override lookup) ∧
      (given.override lookup).override lookup = given.override lookup ∧
      ∀ name bound s, (name, bound) ∈ numberVariables → lookup name = some s →
        Number.readUnsigned bound s.toList = none →
        given.override (Function.update lookup name none) = given.override lookup := by
  obtain ⟨given, hread, hresolved⟩ := exists_ofJson hfits
  refine ⟨given, by simp only [ofDocument, hparse, hread], fun lookup => ⟨?_, ?_, ?_⟩⟩
  · have hoverride := resolvedFrom_override lookup hresolved
    intro settings
    constructor
    · intro hsettings
      exact resolvedFrom_unique hsettings hoverride
    · rintro rfl
      exact hoverride
  · exact override_override lookup given
  · intro name bound s hname htext hnumber
    exact override_congr (Variables.alike_update lookup hname htext hnumber) given

/-- A document with a port of the management server, and variables for both ports of which the one
of the database is no number. -/
theorem Settings.exists_resolvedFrom_ports :
    let lookup : Variables := fun name =>
      if name = "STRATUS_MGMT_PORT" then some "9090"
      else if name = "STRATUS_DB_PORT" then some "many"
      else none
    ∃ entries given,
      Toml.parse "hypervisor = \"KVM\"\n[management]\nport = 8080\n" = some entries ∧
      Fits (.obj (Toml.entriesToJson entries)) ∧
      ofDocument "hypervisor = \"KVM\"\n[management]\nport = 8080\n" = .ok given ∧
      ResolvedFrom (.obj (Toml.entriesToJson entries)) lookup (given.override lookup) ∧
      given.override (Function.update lookup "STRATUS_DB_PORT" none) = given.override lookup := by
  intro lookup
  have hparse : Toml.parse "hypervisor = \"KVM\"\n[management]\nport = 8080\n" =
      some [("hypervisor", .text "KVM"),
        ("management", .table .header [("port", .integer 8080)])] := by rfl
  have hfits : Fits (.obj (Toml.entriesToJson [("hypervisor", .text "KVM"),
      ("management", .table .header [("port", .integer 8080)])])) := by
    refine ⟨?_, nofun, rfl, by decide⟩
    intro value hvalue
    obtain rfl := Option.some.inj hvalue
    exact ⟨rfl, by decide⟩
  obtain ⟨given, hread, hgiven⟩ := exists_resolvedFrom hparse hfits
  obtain ⟨hresolved, -, hworthless⟩ := hgiven lookup
  exact ⟨_, given, hparse, hfits, hread, (hresolved _).2 rfl,
    hworthless "STRATUS_DB_PORT" portLimit "many" (by decide) rfl rfl⟩

end ControlPlane
