import ControlPlane.Job
import ControlPlane.Proofs.RecordEdits

/-!
# Records on the wire

Key pairs, domains, users, accounts, settings and jobs are written under their wire names, and each
of them is read back as it was written, for all values of its fields and all lists of users. The
one thing to mind are the types of the numbers (`Domain.InRange`, `Settings.InRange`), and that a
job with the result null cannot be told from one without a result (`Job.Readable`); records that
were read are never in question (`Job.readable_of_ofJson` and its likes).

Main statement: `wireRecords_roundTrip`. Reading undoes writing, and members that are unknown or
null do not matter.
-/

namespace ControlPlane

open Json FieldReader

/-! ## Identities -/

namespace KeyPair

theorem ofJson_toJson (keys : KeyPair) : ofJson keys.toJson = .ok keys := by
  refine Shape.decode_object rfl (by decide) ?_
  refine seq_ok (map_ok _ ?_) ?_
  · exact required_ok rfl rfl
  · exact required_ok rfl rfl

theorem ofJson_of_edits {value value' : Json} {keys : KeyPair} (h : shape.FlatEdits value value')
    (hread : ofJson value = .ok keys) : ofJson value' = .ok keys := by
  refine Shape.decode_of_edits ?_ h hread
  refine tolerates_seq (tolerates_map _ ?_) ?_
  · exact tolerates_required_of_not (by decide) (fun _ _ => not_false) nofun
  · exact tolerates_required_of_not (by decide) (fun _ _ => not_false) nofun

end KeyPair

namespace Domain

/-- The level of a domain has 32 bits. -/
def InRange (domain : Domain) : Prop :=
  ∀ level, domain.level = some level → level ≤ Number.greatest32

theorem ofJson_toJson {domain : Domain} (h : domain.InRange) :
    ofJson domain.toJson = .ok domain := by
  refine Shape.decode_object rfl (by decide) ?_
  refine seq_ok (seq_ok (seq_ok (seq_ok (map_ok _ ?_) ?_) ?_) ?_) ?_
  · exact required_ok rfl rfl
  · exact required_ok rfl rfl
  · exact optional_ok rfl (decodeOptional_optional domain.path)
  · exact optional_ok rfl (decodeOptional_optional domain.parentId)
  · refine optional_ok rfl ?_
    cases hlevel : domain.level with
    | none => rfl
    | some level => exact congrArg (Except.map some) (decodeUnsigned_nat (h level hlevel))

theorem inRange_of_ofJson {value : Json} {domain : Domain} (h : ofJson value = .ok domain) :
    domain.InRange := by
  obtain ⟨look, h⟩ := Shape.exists_look_of_decode h
  simp only [seq_eq_ok, map_eq_ok] at h
  obtain ⟨_, level, ⟨_, _, ⟨_, _, ⟨_, _, ⟨_, _, rfl⟩, _, rfl⟩, _, rfl⟩, _, rfl⟩, hlevel, rfl⟩ := h
  exact of_optional (P := (· ≤ Number.greatest32)) hlevel fun _ _ h => le_of_decodeUnsigned h

theorem ofJson_of_edits {value value' : Json} {domain : Domain} (h : shape.FlatEdits value value')
    (hread : ofJson value = .ok domain) : ofJson value' = .ok domain := by
  refine Shape.decode_of_edits ?_ h hread
  refine tolerates_seq (tolerates_seq (tolerates_seq (tolerates_seq (tolerates_map _ ?_) ?_) ?_) ?_)
    ?_
  · exact tolerates_required_of_not (by decide) (fun _ _ => not_false) nofun
  · exact tolerates_required_of_not (by decide) (fun _ _ => not_false) nofun
  all_goals exact tolerates_optional_of_not (by decide) fun _ _ => not_false

end Domain

namespace User

theorem ofJson_toJson (user : User) : ofJson user.toJson = .ok user := by
  refine Shape.decode_object rfl (by decide) ?_
  refine seq_ok (seq_ok (seq_ok (seq_ok (seq_ok (seq_ok (seq_ok (seq_ok (seq_ok (seq_ok (seq_ok
    (map_ok _ ?_) ?_) ?_) ?_) ?_) ?_) ?_) ?_) ?_) ?_) ?_) ?_
  · exact required_ok rfl rfl
  · exact required_ok rfl rfl
  · exact optional_ok rfl (decodeOptional_optional _)
  · exact optional_ok rfl (decodeOptional_optional _)
  · exact optional_ok rfl (decodeOptional_optional _)
  · refine optional_ok rfl ?_
    cases user.accountType with
    | none => rfl
    | some kind => exact congrArg (Except.map some) (AccountType.ofJson_toJson kind)
  all_goals exact optional_ok rfl (decodeOptional_optional _)

theorem ofJson_of_edits {value value' : Json} {user : User} (h : shape.FlatEdits value value')
    (hread : ofJson value = .ok user) : ofJson value' = .ok user := by
  refine Shape.decode_of_edits ?_ h hread
  refine tolerates_seq (tolerates_seq (tolerates_seq (tolerates_seq (tolerates_seq (tolerates_seq
    (tolerates_seq (tolerates_seq (tolerates_seq (tolerates_seq (tolerates_seq
      (tolerates_map _ ?_) ?_) ?_) ?_) ?_) ?_) ?_) ?_) ?_) ?_) ?_) ?_
  · exact tolerates_required_of_not (by decide) (fun _ _ => not_false) nofun
  · exact tolerates_required_of_not (by decide) (fun _ _ => not_false) nofun
  all_goals exact tolerates_optional_of_not (by decide) fun _ _ => not_false

end User

namespace Account

/-- An edit of an account, or of one of its users. -/
def Edits : Json → Json → Prop :=
  shape.Edits fun name value value' =>
    name = "user" ∧ ItemEdits User.shape.FlatEdits value value'

theorem ofJson_toJson (account : Account) : ofJson account.toJson = .ok account := by
  refine Shape.decode_object rfl (by decide) ?_
  refine seq_ok (seq_ok (seq_ok (seq_ok (seq_ok (seq_ok (map_ok _ ?_) ?_) ?_) ?_) ?_) ?_) ?_
  · exact required_ok rfl rfl
  · exact required_ok rfl rfl
  · exact required_ok rfl (AccountType.ofJson_toJson _)
  · exact required_ok rfl rfl
  · exact optional_ok rfl (decodeOptional_optional _)
  · exact optional_ok rfl (decodeOptional_optional _)
  · exact withDefault_ok rfl [] (decodeList_map fun user _ => user.ofJson_toJson)

theorem ofJson_of_edits {value value' : Json} {account : Account} (h : Edits value value')
    (hread : ofJson value = .ok account) : ofJson value' = .ok account := by
  have huntouched : ∀ name : String, name ≠ "user" → ∀ value value',
      ¬ (name = "user" ∧ ItemEdits User.shape.FlatEdits value value') := by
    rintro name hname value value' ⟨hsame, -⟩
    exact hname hsame
  refine Shape.decode_of_edits ?_ h hread
  refine tolerates_seq (tolerates_seq (tolerates_seq (tolerates_seq (tolerates_seq (tolerates_seq
    (tolerates_map _ ?_) ?_) ?_) ?_) ?_) ?_) ?_
  · exact tolerates_required_of_not (by decide) (huntouched _ (by decide)) nofun
  · exact tolerates_required_of_not (by decide) (huntouched _ (by decide)) nofun
  · exact tolerates_required_of_not (by decide) (huntouched _ (by decide)) nofun
  · exact tolerates_required_of_not (by decide) (huntouched _ (by decide)) nofun
  · exact tolerates_optional_of_not (by decide) (huntouched _ (by decide))
  · exact tolerates_optional_of_not (by decide) (huntouched _ (by decide))
  · refine tolerates_withDefault (by decide) ?_ _ nofun
    rintro value value' users ⟨-, hedit⟩ hread
    have huser : ∀ value value' user, User.shape.FlatEdits value value' →
        User.ofJson value = .ok user → User.ofJson value' = .ok user :=
      fun _ _ _ => User.ofJson_of_edits
    exact decodeList_of_itemEdits huser hedit hread

end Account

/-! ## Settings -/

namespace ManagementSettings

variable {surplus : Surplus}

theorem ofJson_toJson {settings : ManagementSettings} (h : settings.InRange) :
    ofJson surplus settings.toJson = .ok settings := by
  unfold ofJson toJson
  refine Shape.decode_object rfl (by decide) ?_
  refine seq_ok (seq_ok (seq_ok (seq_ok (seq_ok (seq_ok (seq_ok (seq_ok
    (map_ok _ ?_) ?_) ?_) ?_) ?_) ?_) ?_) ?_) ?_
  · exact withDefault_ok rfl _ rfl
  · exact withDefault_ok rfl _ rfl
  · exact withDefault_ok rfl _ (decodeUnsigned_nat h.port)
  · exact withDefault_ok rfl _ rfl
  · exact withDefault_ok rfl _ rfl
  · exact withDefault_ok rfl _ rfl
  · exact optional_ok rfl (decodeOptional_optional _)
  · exact optional_ok rfl (decodeOptional_optional _)
  · exact withDefault_ok rfl _ (decodeUnsigned_nat h.requestTimeoutSecs)

theorem ofJson_of_edits {value value' : Json} {settings : ManagementSettings}
    (h : shape.FlatEdits value value') (hread : ofJson surplus value = .ok settings) :
    ofJson surplus value' = .ok settings := by
  have hnone : ∀ value value' : Json, ¬ False := fun _ _ => not_false
  refine Shape.decode_of_edits ?_ h hread
  refine tolerates_seq (tolerates_seq (tolerates_seq (tolerates_seq (tolerates_seq (tolerates_seq
    (tolerates_seq (tolerates_seq (tolerates_map _ ?_) ?_) ?_) ?_) ?_) ?_) ?_) ?_) ?_
  case refine_7 => exact tolerates_optional_of_not (by decide) hnone
  case refine_8 => exact tolerates_optional_of_not (by decide) hnone
  all_goals exact tolerates_withDefault_of_not (by decide) hnone _ nofun

end ManagementSettings

namespace DatabaseSettings

variable {surplus : Surplus}

theorem ofJson_toJson {settings : DatabaseSettings} (h : settings.port ≤ portLimit) :
    ofJson surplus settings.toJson = .ok settings := by
  unfold ofJson toJson
  refine Shape.decode_object rfl (by decide) ?_
  refine seq_ok (seq_ok (seq_ok (seq_ok (map_ok _ ?_) ?_) ?_) ?_) ?_
  case refine_2 => exact withDefault_ok rfl _ (decodeUnsigned_nat h)
  all_goals exact withDefault_ok rfl _ rfl

theorem ofJson_of_edits {value value' : Json} {settings : DatabaseSettings}
    (h : shape.FlatEdits value value') (hread : ofJson surplus value = .ok settings) :
    ofJson surplus value' = .ok settings := by
  refine Shape.decode_of_edits ?_ h hread
  refine tolerates_seq (tolerates_seq (tolerates_seq (tolerates_seq (tolerates_map _ ?_) ?_) ?_) ?_)
    ?_
  all_goals
    exact tolerates_withDefault_of_not (by decide) (fun _ _ => not_false) _ nofun

end DatabaseSettings

namespace Settings

/-- An edit of settings, or of the records in them. -/
def Edits : Json → Json → Prop :=
  shape.Edits fun name value value' =>
    (name = "management" ∧ ManagementSettings.shape.FlatEdits value value') ∨
      (name = "database" ∧ DatabaseSettings.shape.FlatEdits value value')

variable {surplus : Surplus}

theorem ofJson_toJson {settings : Settings} (h : settings.InRange) :
    ofJson surplus settings.toJson = .ok settings := by
  unfold ofJson toJson
  refine Shape.decode_object rfl (by decide) ?_
  refine seq_ok (seq_ok (seq_ok (seq_ok (seq_ok (map_ok _ ?_) ?_) ?_) ?_) ?_) ?_
  · exact withDefault_ok rfl _ (ManagementSettings.ofJson_toJson h.management)
  · refine optional_ok rfl ?_
    cases hdatabase : settings.database with
    | none => rfl
    | some own =>
      have hport := h.databasePort own hdatabase
      exact congrArg (Except.map some) (DatabaseSettings.ofJson_toJson hport)
  · exact withDefault_ok rfl _ (decodeUnsigned_nat h.asyncTimeoutSecs)
  · exact withDefault_ok rfl _ (decodeUnsigned_nat h.pollIntervalMs)
  · exact withDefault_ok rfl _ (decodeUnsigned_nat h.defaultWorkers)
  · exact optional_ok rfl (decodeOptional_optional _)

theorem ofJson_of_edits {value value' : Json} {settings : Settings} (h : Edits value value')
    (hread : ofJson surplus value = .ok settings) : ofJson surplus value' = .ok settings := by
  have huntouched : ∀ name : String, name ≠ "management" → name ≠ "database" → ∀ value value',
      ¬ ((name = "management" ∧ ManagementSettings.shape.FlatEdits value value') ∨
        (name = "database" ∧ DatabaseSettings.shape.FlatEdits value value')) := by
    rintro name hmanagement hdatabase value value' (⟨hname, -⟩ | ⟨hname, -⟩)
    · exact hmanagement hname
    · exact hdatabase hname
  refine Shape.decode_of_edits ?_ h hread
  refine tolerates_seq (tolerates_seq (tolerates_seq (tolerates_seq (tolerates_seq
    (tolerates_map _ ?_) ?_) ?_) ?_) ?_) ?_
  · refine tolerates_withDefault (by decide) ?_ _ nofun
    rintro value value' management (⟨-, hedit⟩ | ⟨hname, -⟩) hread
    · exact ManagementSettings.ofJson_of_edits hedit hread
    · exact absurd hname (by decide)
  · refine tolerates_optional (by decide) ?_
    rintro value value' database (⟨hname, -⟩ | ⟨-, hedit⟩) hread
    · exact absurd hname (by decide)
    · exact decodeOptional_of_edits hedit (fun _ => DatabaseSettings.ofJson_of_edits hedit) hread
  · exact tolerates_withDefault_of_not (by decide) (huntouched _ (by decide) (by decide)) _ nofun
  · exact tolerates_withDefault_of_not (by decide) (huntouched _ (by decide) (by decide)) _ nofun
  · exact tolerates_withDefault_of_not (by decide) (huntouched _ (by decide) (by decide)) _ nofun
  · exact tolerates_optional_of_not (by decide) (huntouched _ (by decide) (by decide))

end Settings

/-! ## Jobs -/

namespace Job

/-- A job that was read: the code of its result has 64 bits, and its result is not null. -/
structure Readable (job : Job) : Prop where
  resultCode : ∀ code, job.resultCode = some code → Number.isSigned64 code
  result : job.result ≠ some .null

theorem ofJson_toJson {job : Job} (h : job.Readable) : ofJson job.toJson = .ok job := by
  have hstatus : ∀ status : JobStatus, JobStatus.ofJson (Json.nat status.code) = .ok status := by
    rintro (_ | _ | _) <;> rfl
  refine Shape.decode_object rfl (by decide) ?_
  refine seq_ok (seq_ok (seq_ok (seq_ok (seq_ok (seq_ok (map_ok _ ?_) ?_) ?_) ?_) ?_) ?_) ?_
  · exact required_ok rfl rfl
  · exact required_ok rfl (hstatus job.status)
  · refine optional_ok rfl ?_
    cases hcode : job.resultCode with
    | none => rfl
    | some code => exact congrArg (Except.map some) (if_pos (h.resultCode code hcode))
  · exact optional_ok rfl (decodeOptional_optional _)
  · refine optional_ok rfl ?_
    cases hresult : job.result with
    | none => rfl
    | some value =>
      cases value with
      | null => exact absurd hresult h.result
      | _ => rfl
  · exact optional_ok rfl (decodeOptional_optional _)
  · exact optional_ok rfl (decodeOptional_optional _)

theorem readable_of_ofJson {value : Json} {job : Job} (h : ofJson value = .ok job) :
    job.Readable := by
  obtain ⟨look, h⟩ := Shape.exists_look_of_decode h
  simp only [seq_eq_ok, map_eq_ok] at h
  obtain ⟨_, _, ⟨_, _, ⟨_, result, ⟨_, _, ⟨_, code, ⟨_, _, ⟨_, -, rfl⟩, -, rfl⟩, hcode, rfl⟩, -,
    rfl⟩, hresult, rfl⟩, -, rfl⟩, -, rfl⟩ := h
  constructor
  · exact of_optional (P := (Number.isSigned64 · = true)) hcode
      fun _ _ h => isSigned64_of_decodeSigned64 h
  · exact of_withDefault (P := (· ≠ some .null)) hresult nofun
      fun value result hread hnull => decodeOptional_ne_some_null value (hnull ▸ hread)

theorem ofJson_of_edits {value value' : Json} {job : Job} (h : shape.FlatEdits value value')
    (hread : ofJson value = .ok job) : ofJson value' = .ok job := by
  refine Shape.decode_of_edits ?_ h hread
  refine tolerates_seq (tolerates_seq (tolerates_seq (tolerates_seq (tolerates_seq (tolerates_seq
    (tolerates_map _ ?_) ?_) ?_) ?_) ?_) ?_) ?_
  · exact tolerates_required_of_not (by decide) (fun _ _ => not_false) nofun
  · exact tolerates_required_of_not (by decide) (fun _ _ => not_false) nofun
  all_goals exact tolerates_optional_of_not (by decide) fun _ _ => not_false

end Job

/-! ## All records -/

/-- Reading undoes writing for every record on the wire, and neither members with unknown names nor
members that are null matter, in the record itself and in the records inside it. -/
theorem wireRecords_roundTrip :
    RoundTrips KeyPair.shape.FlatEdits (fun _ => True) KeyPair.toJson KeyPair.ofJson ∧
      RoundTrips Domain.shape.FlatEdits Domain.InRange Domain.toJson Domain.ofJson ∧
      RoundTrips User.shape.FlatEdits (fun _ => True) User.toJson User.ofJson ∧
      RoundTrips Account.Edits (fun _ => True) Account.toJson Account.ofJson ∧
      (∀ surplus, RoundTrips Settings.Edits Settings.InRange Settings.toJson
        (Settings.ofJson surplus)) ∧
      RoundTrips Job.shape.FlatEdits Job.Readable Job.toJson Job.ofJson ∧
      ∀ value job, Job.ofJson value = .ok job → Job.ofJson job.toJson = .ok job := by
  refine ⟨?keys, ?domain, ?user, ?account, ?settings, ?job, ?rewritten⟩
  case keys =>
    exact roundTrips_of_edit (fun keys _ => keys.ofJson_toJson) (fun _ _ _ => trivial)
      KeyPair.ofJson_of_edits
  case domain =>
    exact roundTrips_of_edit (fun _ => Domain.ofJson_toJson) (fun _ _ => Domain.inRange_of_ofJson)
      Domain.ofJson_of_edits
  case user =>
    exact roundTrips_of_edit (fun user _ => user.ofJson_toJson) (fun _ _ _ => trivial)
      User.ofJson_of_edits
  case account =>
    exact roundTrips_of_edit (fun account _ => account.ofJson_toJson) (fun _ _ _ => trivial)
      Account.ofJson_of_edits
  case settings =>
    intro surplus
    exact roundTrips_of_edit (fun _ => Settings.ofJson_toJson)
      (fun _ _ => Settings.inRange_of_ofJson) Settings.ofJson_of_edits
  case job =>
    exact roundTrips_of_edit (fun _ => Job.ofJson_toJson) (fun _ _ => Job.readable_of_ofJson)
      Job.ofJson_of_edits
  case rewritten =>
    intro value job hread
    exact Job.ofJson_toJson (Job.readable_of_ofJson hread)

end ControlPlane
