import ControlPlane.CommandLine.Run
import ControlPlane.Proofs.Classification
import ControlPlane.Proofs.ProvidedUsers

/-!
# Users are provided for administrators only

A session that is asked for a user's client, and the program that is asked for a user's keys, first
classify the credentials in use. Both list domains and accounts for that, and providing a user
begins with listing them again; so it matters which attempts belong to the classification and which
come later. `Guarded` tells them apart: what comes later does so because the classification came
to an administrator, and what may create something or reveal keys comes later.

Main statement: both are guarded, and what they come to without privileges is their own
(`providing_forAdmins`).
-/

namespace ControlPlane

open Connection Classifier

/-- The commands that create something or reveal keys. -/
def privilegedCommands : List String :=
  ["createDomain", "createAccount", "registerUserKeys", "getUserKeys"]

/-- A classification, and what is attempted later because of it. -/
structure Guarded {σ : Type} (client : Client) (classifier : Classifier) (world : World σ)
    (consultations : List Consultation) (classified : Except ClientError PrivilegeTier)
    (world' : World σ) (later : List Attempt) : Prop where
  conducts : client.connection.Conducts (ExceptT.run (classifier.classify client)) world
    (attemptsOf consultations) classified world'
  isClassified : IsClassified client.connection classifier consultations classified
  /-- A privileged command comes after the whole classification, and that came to an
  administrator. -/
  privileged : ∀ {before attempt after},
    attemptsOf consultations ++ later = before ++ attempt :: after →
      attempt.call.name ∈ privilegedCommands →
        attemptsOf consultations <+: before ∧
          (classified = .ok .rootAdmin ∨ classified = .ok .domainAdmin)
  /-- For a plain user and after an error nothing is attempted any more. -/
  unprivileged : classified ≠ .ok .rootAdmin → classified ≠ .ok .domainAdmin → later = []

theorem mem_names_of_attemptsOf {connection : Connection} {classifier : Classifier}
    {consultations : List Consultation} {result : Except ClientError PrivilegeTier}
    (h : IsClassified connection classifier consultations result) :
    ∀ attempt ∈ attemptsOf consultations,
      attempt.call.name ∈ ["listAccounts", "listDomains"] := by
  intro attempt hattempt
  obtain ⟨consultation, hmem, hattempt⟩ := List.mem_flatMap.1 hattempt
  exact Probe.namesIn_consults connection consultation.probe (h.consults consultation hmem) attempt
    hattempt

/-- What comes after a part without a command comes after the whole part. -/
theorem prefix_of_append_eq {probes later before after : List Attempt} {attempt : Attempt}
    (h : probes ++ later = before ++ attempt :: after) (hattempt : attempt ∉ probes) :
    probes <+: before ∧ attempt ∈ later := by
  rcases List.append_eq_append_iff.1 h with ⟨middle, rfl, rfl⟩ | ⟨middle, rfl, hmiddle⟩
  · exact ⟨List.prefix_append probes middle, by simp⟩
  · cases middle with
    | nil =>
      rw [List.nil_append] at hmiddle
      exact ⟨by simp, hmiddle ▸ List.mem_cons_self⟩
    | cons first rest =>
      obtain ⟨rfl, -⟩ := List.cons.inj hmiddle
      exact absurd (by simp) hattempt

/-- What is attempted because of a classification to an administrator is guarded by it. -/
theorem guarded_of_later {σ : Type} {client : Client} {classifier : Classifier}
    {world world' : World σ} {consultations : List Consultation}
    {classified : Except ClientError PrivilegeTier} {later : List Attempt}
    (h : client.connection.Conducts (ExceptT.run (classifier.classify client)) world
      (attemptsOf consultations) classified world')
    (hclassified : IsClassified client.connection classifier consultations classified)
    (hlater : later = [] ∨ classified = .ok .rootAdmin ∨ classified = .ok .domainAdmin) :
    Guarded client classifier world consultations classified world' later := by
  refine ⟨h, hclassified, ?_, fun hroot hdomain => hlater.resolve_right (by simp [hroot, hdomain])⟩
  intro before attempt after hsplit hname
  have hother : attempt ∉ attemptsOf consultations := by
    intro hmem
    have hlisting := mem_names_of_attemptsOf hclassified attempt hmem
    have hdisjoint : ∀ name ∈ ["listAccounts", "listDomains"], name ∉ privilegedCommands := by
      decide
    exact hdisjoint _ hlisting hname
  obtain ⟨hbegin, hmem⟩ := prefix_of_append_eq hsplit hother
  exact ⟨hbegin, hlater.resolve_left (List.ne_nil_of_mem hmem)⟩

/-- A dialogue that depends on what credentials are classified as: for administrators it goes on
and provides something, for plain users it has a value of its own, and an error becomes a value. -/
def ForAdmins {σ γ : Type} (client : Client) (classifier : Classifier) (world : World σ)
    (d : Dialogue γ) (provided : List Attempt → γ → Prop) (own : γ) (passed : ClientError → γ) :
    Prop :=
  ∃ consultations classified between later value world',
    Guarded client classifier world consultations classified between later ∧
      client.connection.Conducts d world (attemptsOf consultations ++ later) value world' ∧
      (∀ tier, classified = .ok tier → tier.isAdmin = true → provided later value) ∧
      (classified = .ok .user → later = [] ∧ value = own) ∧
      ∀ error, classified = .error error → later = [] ∧ value = passed error

theorem forAdmins_of_classify {σ γ : Type} {client : Client} {classifier : Classifier}
    {world : World σ} {d : Dialogue γ} {provided : List Attempt → γ → Prop} {own : γ}
    {passed : ClientError → γ}
    (hadmin : ∀ {attempts tier between}, tier.isAdmin = true →
      client.connection.Conducts (ExceptT.run (classifier.classify client)) world attempts
        (.ok tier) between →
      ∃ later value world',
        client.connection.Conducts d world (attempts ++ later) value world' ∧ provided later value)
    (huser : ∀ {attempts between},
      client.connection.Conducts (ExceptT.run (classifier.classify client)) world attempts
        (.ok .user) between → client.connection.Conducts d world attempts own between)
    (hfailed : ∀ {attempts error between},
      client.connection.Conducts (ExceptT.run (classifier.classify client)) world attempts
        (.error error) between →
      client.connection.Conducts d world attempts (passed error) between) :
    ForAdmins client classifier world d provided own passed := by
  obtain ⟨consultations, classified, between, hconducts, hclassified⟩ :=
    classify_isClassified client classifier world
  have hadmins : ∀ {tier}, classified = .ok tier → tier.isAdmin = true →
      ForAdmins client classifier world d provided own passed := by
    rintro tier rfl htier
    obtain ⟨later, value, world', hlater, hprovided⟩ := hadmin htier hconducts
    refine ⟨consultations, .ok tier, between, later, value, world',
      guarded_of_later hconducts hclassified (.inr ?_), hlater, fun _ _ _ => hprovided, ?_, ?_⟩
    · cases tier with
      | rootAdmin => exact .inl rfl
      | domainAdmin => exact .inr rfl
      | user => exact absurd htier (by decide)
    · intro huser
      rw [Except.ok.inj huser] at htier
      exact absurd htier (by decide)
    · exact fun error herror => absurd herror (by simp)
  rcases classified with error | tier
  · have hpassed := hfailed hconducts
    refine ⟨consultations, .error error, between, [], passed error, between,
      guarded_of_later hconducts hclassified (.inl rfl), ?_, ?_, ?_, ?_⟩
    · rwa [List.append_nil]
    · exact fun tier htier => absurd htier (by simp)
    · exact fun htier => absurd htier (by simp)
    · exact fun other hother => ⟨rfl, congrArg passed (Except.error.inj hother)⟩
  · cases tier with
    | rootAdmin => exact hadmins rfl rfl
    | domainAdmin => exact hadmins rfl rfl
    | user =>
      have hown := huser hconducts
      refine ⟨consultations, .ok .user, between, [], own, between,
        guarded_of_later hconducts hclassified (.inl rfl), ?_, ?_, fun _ => ⟨rfl, rfl⟩, ?_⟩
      · rwa [List.append_nil]
      · intro tier htier hadmin
        rw [← Except.ok.inj htier] at hadmin
        exact absurd hadmin (by decide)
      · exact fun error herror => absurd herror (by simp)

/-! ## Clients of users -/

/-- A client of the user that is provided, labelled with the current test. -/
def ProvidesClient (session : Session) (accountName domainName : String)
    (accountType : AccountType) (later : List Attempt) (result : Except ClientError Client) :
    Prop :=
  ∃ provided, Provisioning.IsProvided session.client.connection accountName domainName accountType
      later provided ∧
    result = provided.map fun credentials =>
      (session.client.derive credentials.keys).withIdentifier session.identifier

theorem forAdmins_userClient {σ : Type} (session : Session) (accountName domainName : String)
    (accountType : AccountType) (world : World σ) :
    ForAdmins session.client session.classifier world
      (ExceptT.run (session.userClient accountName domainName accountType))
      (ProvidesClient session accountName domainName accountType)
      (.ok ⟨session.client.connection, session.identifier, session.client.hypervisor⟩) .error := by
  have hlabel : ∀ {attempts result world'},
      session.client.connection.Conducts (ExceptT.run (Provisioning.userClient session.client
        session.classifier accountName domainName accountType)) world attempts result world' →
      session.client.connection.Conducts
        (ExceptT.run (session.userClient accountName domainName accountType)) world attempts
        (result.map fun client => client.withIdentifier session.identifier) world' :=
    fun hconducts => conducts_map hconducts _
  refine forAdmins_of_classify ?_ ?_ ?_
  · intro attempts tier between htier hclassify
    obtain ⟨later, provided, world', hensure, hprovided⟩ :=
      Provisioning.ensureUser_isProvided session.client accountName domainName accountType between
    have hderived : session.client.connection.Conducts
        (ExceptT.run (Provisioning.userClient session.client session.classifier accountName
          domainName accountType)) world (attempts ++ later)
        (provided.map fun credentials => session.client.derive credentials.keys) world' := by
      refine conducts_bind_ok hclassify ?_
      simp only [htier, if_true]
      exact conducts_map hensure _
    refine ⟨later, _, world', hlabel hderived, provided, hprovided, ?_⟩
    cases provided with
    | ok credentials => rfl
    | error error => rfl
  · intro attempts between hclassify
    exact hlabel (conducts_bind_silent hclassify (conducts_pure _ session.client between))
  · intro attempts error between hclassify
    exact hlabel (conducts_bind_error hclassify)

/-! ## Keys of users -/

section

open CommandLine

/-- Providing a user and showing its keys, as an action. -/
def userKeysAction (session : Session) (accountName domainName : String)
    (accountType : AccountType) (showSecret : Bool) (format : OutputFormat) : Action Exit := do
  if ← session.isAdminContext then
    let result ← ExceptT.lift (ExceptT.run (session.ensureUser accountName domainName accountType))
    match result with
    | .ok credentials => return .success (renderUserKeys format credentials showSecret)
    | .error error =>
      return .failure ((Failure.ofError error).withContext (prepareContext accountName domainName))
  else return .failure notAdmin

/-- The end of a plan whose action comes to this. -/
def exitOf (explain : ClientError → Failure) : Except ClientError Exit → Exit
  | .ok exit => exit
  | .error error => .failure (explain error)

/-- The end of a program that was to show the keys of a user. -/
def keysExit (accountName domainName : String) (showSecret : Bool) (format : OutputFormat) :
    Except ClientError UserCredentials → Exit
  | .ok credentials => .success (renderUserKeys format credentials showSecret)
  | .error error =>
    .failure ((Failure.ofError error).withContext (prepareContext accountName domainName))

/-- The keys of the user that is provided, or why there are none. -/
def ProvidesKeys (session : Session) (accountName domainName : String) (accountType : AccountType)
    (showSecret : Bool) (format : OutputFormat) (later : List Attempt) (exit : Exit) : Prop :=
  ∃ provided, Provisioning.IsProvided session.client.connection accountName domainName accountType
      later provided ∧
    exit = keysExit accountName domainName showSecret format provided

theorem exists_conducts_ofAction {σ : Type} (connection : Connection) (action : Action Exit)
    (explain : ClientError → Failure) :
    ∃ dialogue, Plan.ofAction action explain = .converse dialogue ∧
      ∀ {world world' : World σ} {attempts result},
        connection.Conducts (ExceptT.run action) world attempts result world' →
          connection.Conducts dialogue world attempts (exitOf explain result) world' := by
  refine ⟨_, rfl, ?_⟩
  intro world world' attempts result h
  rw [← List.append_nil attempts]
  refine conducts_bind h ?_
  cases result with
  | ok exit => exact conducts_done connection exit world'
  | error error => exact conducts_done connection _ world'

theorem forAdmins_userKeysPlan {σ : Type} (session : Session) (accountName domainName : String)
    (accountType : AccountType) (showSecret : Bool) (format : OutputFormat) (world : World σ) :
    ∃ dialogue,
      userKeysPlan session accountName domainName accountType showSecret format =
        .converse dialogue ∧
      ForAdmins session.client session.classifier world dialogue
        (ProvidesKeys session accountName domainName accountType showSecret format)
        (.failure notAdmin) (fun error => .failure (.ofError error)) := by
  obtain ⟨dialogue, hplan, hdialogue⟩ := @exists_conducts_ofAction σ session.client.connection
    (userKeysAction session accountName domainName accountType showSecret format) .ofError
  refine ⟨dialogue, hplan, forAdmins_of_classify ?_ ?_ ?_⟩
  · intro attempts tier between htier hclassify
    obtain ⟨later, provided, world', hensure, hprovided⟩ :=
      Provisioning.ensureUser_isProvided session.client accountName domainName accountType between
    have hshown : session.client.connection.Conducts
        (ExceptT.run (userKeysAction session accountName domainName accountType showSecret format))
        world (attempts ++ later)
        (.ok (keysExit accountName domainName showSecret format provided)) world' := by
      refine conducts_bind_ok (conducts_map hclassify PrivilegeTier.isAdmin) ?_
      simp only [htier, if_true]
      refine conducts_bind_silent (conducts_lift hensure) ?_
      cases provided with
      | ok credentials => exact conducts_pure _ _ world'
      | error error => exact conducts_pure _ _ world'
    exact ⟨later, _, world', hdialogue hshown, provided, hprovided, rfl⟩
  · intro attempts between hclassify
    exact hdialogue (conducts_bind_silent (conducts_map hclassify PrivilegeTier.isAdmin)
      (conducts_pure _ (Exit.failure notAdmin) between))
  · intro attempts error between hclassify
    exact hdialogue (conducts_bind_error (conducts_bind_error hclassify))

end

/-- Without privileges nothing is created and no key is asked for, whatever the server does. -/
theorem providing_forAdmins {σ : Type} (session : Session) (accountName domainName : String)
    (accountType : AccountType) (showSecret : Bool) (format : OutputFormat)
    (world : World σ) :
    ForAdmins session.client session.classifier world
        (ExceptT.run (session.userClient accountName domainName accountType))
        (ProvidesClient session accountName domainName accountType)
        (.ok ⟨session.client.connection, session.identifier, session.client.hypervisor⟩) .error ∧
      ∃ dialogue,
        CommandLine.userKeysPlan session accountName domainName accountType showSecret format =
          .converse dialogue ∧
        ForAdmins session.client session.classifier world dialogue
          (ProvidesKeys session accountName domainName accountType showSecret format)
          (.failure CommandLine.notAdmin) (fun error => .failure (.ofError error)) :=
  ⟨forAdmins_userClient session accountName domainName accountType world,
    forAdmins_userKeysPlan session accountName domainName accountType showSecret format world⟩

end ControlPlane
