import ControlPlane.Settings.Override

/-!
# The ranges of settings

Numbers of settings are read in the ranges of their types, in records and in variables alike. So
whatever record the settings come from (`Settings.inRange_of_ofJson`) and whatever variables
override it (`Settings.inRange_override`), a port has 16 bits and every other number 64.
-/

namespace ControlPlane

namespace Json

variable {α β : Type}

/-! ## Fields that were read -/

theorem FieldReader.seq_eq_ok {f : FieldReader (α → β)} {x : FieldReader α}
    {look : String → Option Json} {b : β} :
    (f <*> x) look = .ok b ↔ ∃ g a, f look = .ok g ∧ x look = .ok a ∧ g a = b := by
  show FieldReader.seq f (fun _ => x) look = .ok b ↔ _
  unfold FieldReader.seq
  cases hf : f look <;> cases hx : x look <;> simp [hx]

theorem FieldReader.map_eq_ok {g : α → β} {x : FieldReader α} {look : String → Option Json}
    {b : β} : (g <$> x) look = .ok b ↔ ∃ a, x look = .ok a ∧ g a = b := by
  show (FieldReader.pure g <*> x) look = .ok b ↔ _
  rw [FieldReader.seq_eq_ok]
  simp [FieldReader.pure]

/-- A record that was decoded was read through some look-up. -/
theorem Shape.exists_look_of_decode {shape : Shape} {surplus : Surplus} {reader : FieldReader α}
    {value : Json} {a : α} (h : shape.decode surplus reader value = .ok a) :
    ∃ look, reader look = .ok a := by
  unfold Shape.decode at h
  split at h
  · split at h
    · rename_i own hread
      obtain rfl := Except.ok.inj h
      exact ⟨_, hread⟩
    · exact absurd h (by simp)
  · split at h
    · rename_i own hread
      split at h
      · exact absurd h (by simp)
      · obtain rfl := Except.ok.inj h
        exact ⟨_, hread⟩
    · exact absurd h (by simp)
  · exact absurd h (by simp)

/-- What holds of a default and of everything that is decoded holds of a field. -/
theorem FieldReader.of_withDefault {P : α → Prop} {name : String} {default a : α}
    {item : Json → Decoded α} {look : String → Option Json}
    (h : withDefault name default item look = .ok a) (hdefault : P default)
    (hitem : ∀ value a, item value = .ok a → P a) : P a := by
  unfold withDefault at h
  split at h
  · rename_i value _
    unfold report at h
    split at h
    · rename_i own hread
      obtain rfl := Except.ok.inj h
      exact hitem value _ hread
    · exact absurd h (by simp)
  · obtain rfl := Except.ok.inj h
    exact hdefault

/-- What holds of everything that is decoded holds of a field that is there. -/
theorem FieldReader.of_optional {P : α → Prop} {name : String} {found : Option α}
    {item : Json → Decoded α} {look : String → Option Json}
    (h : optional name item look = .ok found) (hitem : ∀ value a, item value = .ok a → P a) :
    ∀ a, found = some a → P a := by
  refine FieldReader.of_withDefault (P := fun found => ∀ a, found = some a → P a) h nofun ?_
  rintro value own hread a rfl
  unfold decodeOptional at hread
  split at hread
  · exact absurd hread (by simp)
  · cases hown : item value with
    | error error => exact absurd hread (by simp [hown, Except.map])
    | ok b =>
      rw [hown] at hread
      obtain rfl : b = a := by simpa [Except.map] using hread
      exact hitem value b hown

theorem le_of_decodeUnsigned {type : String} {bound n : Nat} {value : Json}
    (h : decodeUnsigned type bound value = .ok n) : n ≤ bound := by
  unfold decodeUnsigned at h
  split at h
  · split at h
    · split at h
      · rename_i hle
        obtain rfl := Except.ok.inj h
        exact hle
      · exact absurd h (by simp)
    · exact absurd h (by simp)
  · exact absurd h (by simp)

/-- A number that is read, or the default for it, is in range. -/
theorem FieldReader.le_of_withDefault {name type : String} {default n bound : Nat}
    {look : String → Option Json}
    (h : withDefault name default (decodeUnsigned type bound) look = .ok n)
    (hdefault : default ≤ bound) : n ≤ bound :=
  FieldReader.of_withDefault (P := (· ≤ bound)) h hdefault fun _ _ => le_of_decodeUnsigned

end Json

/-! ## Settings in range -/

/-- The numbers of the management server have their types. -/
structure ManagementSettings.InRange (settings : ManagementSettings) : Prop where
  port : settings.port ≤ portLimit
  requestTimeoutSecs : settings.requestTimeoutSecs ≤ wordLimit

/-- The numbers of settings have their types. -/
structure Settings.InRange (settings : Settings) : Prop where
  management : settings.management.InRange
  databasePort : ∀ database, settings.database = some database → database.port ≤ portLimit
  asyncTimeoutSecs : settings.asyncTimeoutSecs ≤ wordLimit
  pollIntervalMs : settings.pollIntervalMs ≤ wordLimit
  defaultWorkers : settings.defaultWorkers ≤ wordLimit

theorem ManagementSettings.inRange_of_ofJson {surplus : Json.Surplus} {value : Json}
    {settings : ManagementSettings} (h : ofJson surplus value = .ok settings) :
    settings.InRange := by
  obtain ⟨look, h⟩ := Json.Shape.exists_look_of_decode h
  simp only [Json.FieldReader.seq_eq_ok, Json.FieldReader.map_eq_ok] at h
  obtain ⟨_, requestTimeoutSecs, ⟨_, _, ⟨_, _, ⟨_, _, ⟨_, _, ⟨_, _, ⟨_, port, ⟨_, _, ⟨_, _, rfl⟩, _,
    rfl⟩, hport, rfl⟩, _, rfl⟩, _, rfl⟩, _, rfl⟩, _, rfl⟩, _, rfl⟩, hrequest, rfl⟩ := h
  exact ⟨Json.FieldReader.le_of_withDefault hport (by decide),
    Json.FieldReader.le_of_withDefault hrequest (by decide)⟩

theorem DatabaseSettings.port_le_of_ofJson {surplus : Json.Surplus} {value : Json}
    {settings : DatabaseSettings} (h : ofJson surplus value = .ok settings) :
    settings.port ≤ portLimit := by
  obtain ⟨look, h⟩ := Json.Shape.exists_look_of_decode h
  simp only [Json.FieldReader.seq_eq_ok, Json.FieldReader.map_eq_ok] at h
  obtain ⟨_, _, ⟨_, _, ⟨_, _, ⟨_, port, ⟨_, _, rfl⟩, hport, rfl⟩, _, rfl⟩, _, rfl⟩, _, rfl⟩ := h
  exact Json.FieldReader.le_of_withDefault hport (by decide)

namespace Settings

theorem inRange_default : InRange {} := by
  refine ⟨⟨?_, ?_⟩, nofun, ?_, ?_, ?_⟩
  all_goals decide

theorem inRange_of_ofJson {surplus : Json.Surplus} {value : Json} {settings : Settings}
    (h : ofJson surplus value = .ok settings) : settings.InRange := by
  obtain ⟨look, h⟩ := Json.Shape.exists_look_of_decode h
  simp only [Json.FieldReader.seq_eq_ok, Json.FieldReader.map_eq_ok] at h
  obtain ⟨_, _, ⟨_, workers, ⟨_, interval, ⟨_, timeout, ⟨_, database,
    ⟨management, hmanagement, rfl⟩, hdatabase, rfl⟩, htimeout, rfl⟩, hinterval, rfl⟩, hworkers,
    rfl⟩, _, rfl⟩ := h
  exact
    { management := Json.FieldReader.of_withDefault hmanagement inRange_default.management
        fun _ _ => ManagementSettings.inRange_of_ofJson
      databasePort := Json.FieldReader.of_optional hdatabase
        fun _ _ => DatabaseSettings.port_le_of_ofJson
      asyncTimeoutSecs := Json.FieldReader.le_of_withDefault htimeout (by decide)
      pollIntervalMs := Json.FieldReader.le_of_withDefault hinterval (by decide)
      defaultWorkers := Json.FieldReader.le_of_withDefault hworkers (by decide) }

end Settings

/-- A number in range is in range after its variable. -/
theorem Variables.number?_getD_le {lookup : Variables} {bound given : Nat} {name : String}
    (h : given ≤ bound) : (lookup.number? bound name).getD given ≤ bound := by
  cases hnumber : lookup.number? bound name with
  | none => exact h
  | some n =>
    obtain ⟨text, -, hread⟩ := Option.bind_eq_some_iff.1 hnumber
    exact Number.readUnsigned_le hread

/-- Variables keep settings in range. -/
theorem Settings.inRange_override {settings : Settings} (h : settings.InRange)
    (lookup : Variables) : (settings.override lookup).InRange where
  management := ⟨Variables.number?_getD_le h.management.port, h.management.requestTimeoutSecs⟩
  databasePort := by
    intro database hdatabase
    simp only [override] at hdatabase
    split at hdatabase
    · rename_i given hgiven
      obtain rfl := Option.some.inj hdatabase
      exact Variables.number?_getD_le (h.databasePort given hgiven)
    · split at hdatabase
      · obtain rfl := Option.some.inj hdatabase
        exact Variables.number?_getD_le (by decide)
      · exact absurd hdatabase (by simp)
  asyncTimeoutSecs := Variables.number?_getD_le h.asyncTimeoutSecs
  pollIntervalMs := h.pollIntervalMs
  defaultWorkers := Variables.number?_getD_le h.defaultWorkers

end ControlPlane
