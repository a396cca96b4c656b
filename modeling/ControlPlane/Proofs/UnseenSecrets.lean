import ControlPlane.Proofs.Suites

/-!
# Secrets that nobody sees

Settings may differ in the value of the secret key and in the management password only
(`Settings.SameButSecrets`). Then a session is made of both or of neither, for the same reason, and
the two sessions are the same up to secrets (`Session.sameButSecrets_of_opened`). Whatever a suite
does with the one, it can do with the other: at a server that does not look at the value of a
signature, what is returned, what is requested and what is shown are the same up to that value
(`Session.secrets_areUnseen`).
-/

namespace ControlPlane

open Signing

/-! ## Settings with other secrets -/

/-- The same settings but for the value of the secret key, which is set in both or in neither, and
for the management password. -/
structure Settings.SameButSecrets (settings settings' : Settings) : Prop where
  secretKey : settings.management.secretKey.isSome = settings'.management.secretKey.isSome
  rest : settings' =
    { settings with management :=
      { settings.management with
        secretKey := settings'.management.secretKey
        password := settings'.management.password } }

namespace Settings

variable {settings settings' : Settings} (h : settings.SameButSecrets settings')
include h

theorem SameButSecrets.fault? : settings.fault? = settings'.fault? := by
  rw [h.rest, Settings.fault?, Settings.fault?, h.secretKey]

theorem SameButSecrets.validate : settings.validate = settings'.validate := by
  rw [Settings.validate, Settings.validate, h.fault?]

theorem SameButSecrets.database : settings.database = settings'.database := by
  rw [h.rest]

/-- The credentials that settings start with are the same up to the secret. -/
theorem SameButSecrets.credentials :
    (Credentials.ofKeyPair? settings.management.keyPair?).SameButSecret
      (.ofKeyPair? settings'.management.keyPair?) := by
  have hsecret := h.secretKey
  rw [h.rest] at hsecret ⊢
  simp only [ManagementSettings.keyPair?] at hsecret ⊢
  generalize settings.management.secretKey = secret at hsecret
  generalize settings'.management.secretKey = secret' at hsecret
  cases settings.management.apiKey with
  | none => exact .integration
  | some apiKey =>
    cases secret with
    | none =>
      cases secret' with
      | none => exact .integration
      | some _ => exact absurd hsecret (by simp)
    | some secret =>
      cases secret' with
      | none => exact absurd hsecret (by simp)
      | some secret' => exact .keys apiKey secret secret'

end Settings

/-! ## Sessions of such settings -/

namespace Session

/-- Two sessions without a database that are opened with settings, or put together from settings and
clients. -/
inductive Opened (settings settings' : Settings) : Session → Session → Prop
  | connected {session session' : Session} (h : connect settings = .ok (some session))
    (h' : connect settings' = .ok (some session')) : Opened settings settings' session session'
  | assembled {client client' : Client} {session session' : Session}
    (hclient : client.SameButSecrets client') (h : assemble? settings client none = some session)
    (h' : assemble? settings' client' none = some session') :
    Opened settings settings' session session'

variable {settings settings' : Settings} (h : settings.SameButSecrets settings')
include h

theorem sameButSecrets_bootstrapClient :
    (bootstrapClient settings).SameButSecrets (bootstrapClient settings') := by
  have hcredentials := h.credentials
  rw [h.rest] at hcredentials ⊢
  exact ⟨⟨rfl, hcredentials, rfl, rfl, rfl, rfl⟩, rfl, rfl⟩

theorem batchTimeout?_congr : batchTimeout? settings = batchTimeout? settings' := by
  rw [h.rest]
  rfl

theorem rel_assemble? {client client' : Client} (hclient : client.SameButSecrets client') :
    Option.Rel Session.SameButSecrets (assemble? settings client none)
      (assemble? settings' client' none) := by
  have hworkers : settings.defaultWorkers = settings'.defaultWorkers := by rw [h.rest]
  rw [assemble?, assemble?, ← batchTimeout?_congr h]
  cases batchTimeout? settings with
  | none => exact .none
  | some limit => exact .some ⟨hclient, rfl, rfl, rfl, hworkers, hclient, rfl, rfl⟩

/-- Sessions are opened with both settings or with neither, for the same reason. -/
theorem results_connect :
    Results Eq (Option.Rel Session.SameButSecrets) (connect settings)
      (connect settings') := by
  rw [connect, connect, ← h.validate, ← h.database]
  cases settings.validate with
  | error fault => exact .error rfl
  | ok =>
    cases settings.database with
    | some => exact .error rfl
    | none => exact .ok (rel_assemble? h (sameButSecrets_bootstrapClient h))

theorem sameButSecrets_of_opened {session session' : Session}
    (hopened : Opened settings settings' session session') :
    session.SameButSecrets session' := by
  cases hopened with
  | connected hsession hsession' =>
    have hresults := results_connect h
    rw [hsession, hsession'] at hresults
    cases hresults with
    | ok hsome =>
      cases hsome with
      | some hsame => exact hsame
  | assembled hclient hsession hsession' =>
    have hsome := rel_assemble? h hclient
    rw [hsession, hsession'] at hsome
    cases hsome with
    | some hsame => exact hsame

end Session

/-! ## What is seen -/

/-- Requests that arrived and left together, for the same target up to a signature. -/
structure Arrival.UpToSignature (arrival arrival' : Arrival) : Prop where
  target : TextUpToSignature arrival.target arrival'.target
  arrived : arrival.arrived = arrival'.arrived
  left : arrival.left = arrival'.left

/-- Suites whose sessions, clients and connections are shown in the same words. -/
structure Suite.ShowsSame (suite suite' : Suite) : Prop where
  session : suite.session.description = suite'.session.description
  clients : ∀ sender, (suite.client? sender).map Client.description =
    (suite'.client? sender).map Client.description
  connections : ∀ sender,
    (suite.client? sender).map (fun client => client.connection.description) =
      (suite'.client? sender).map fun client => client.connection.description

theorem Suite.showsSame_of_sameButSecrets {suite suite' : Suite}
    (h : suite.SameButSecrets suite') : suite.ShowsSame suite' where
  session := h.session.description
  clients sender := map_eq_map_of_rel (rel_client? h sender) fun _ _ hclient =>
    hclient.description
  connections sender := map_eq_map_of_rel (rel_client? h sender) fun _ _ hclient =>
    hclient.connection.description

theorem Arrival.upToSignature_of_arrives {arrival arrival' : Arrival}
    (h : Likeness.signed.Arrives arrival arrival') : arrival.UpToSignature arrival' := by
  cases h with
  | before => exact ⟨textUpToSignature_refl _, rfl, rfl⟩
  | request hurl => exact ⟨Url.upToSignature_target hurl, rfl, rfl⟩

/-- Of settings that differ in secrets only, sessions are opened alike, and whatever moves come to
with the one session, they come to with the other, up to the values of signatures. -/
theorem Session.secrets_areUnseen {settings settings' : Settings}
    (h : settings.SameButSecrets settings') :
    (connect settings).map Option.isSome = (connect settings').map Option.isSome ∧
    ∀ session session', Opened settings settings' session session' →
      ∀ {σ : Type} (world : World σ), world.IgnoresSignatures →
      ∀ moves outcomes (suite : Suite) final,
        Suite.Runs { session } world moves outcomes suite final →
        ∃ outcomes' suite' final',
          Suite.Runs { session := session' } world moves outcomes' suite' final' ∧
          List.Forall₂ Outcome.Agree outcomes outcomes' ∧ suite.ShowsSame suite' ∧
          List.Forall₂ Arrival.UpToSignature final.arrivals final'.arrivals ∧
          final.clock = final'.clock := by
  refine ⟨?_, ?_⟩
  · have hresults := results_connect h
    revert hresults
    generalize connect settings = result
    generalize connect settings' = result'
    rintro (hsome | hsame)
    · cases hsome <;> rfl
    · exact congrArg Except.error hsame
  · intro session session' hopened σ world hserver moves outcomes suite final hruns
    have hsuites : Suite.SameButSecrets { session } { session := session' } :=
      ⟨sameButSecrets_of_opened h hopened, .nil, .nil⟩
    obtain ⟨outcomes', suite', final', hruns', houtcomes, hsuite, hfinal⟩ :=
      Suite.exists_runs hsuites (World.alike_of_ignoresSignatures hserver) hruns
    exact ⟨outcomes', suite', final', hruns', houtcomes, Suite.showsSame_of_sameButSecrets hsuite,
      hfinal.arrivals.imp fun _ _ => Arrival.upToSignature_of_arrives, hfinal.clock⟩

/-! ## Two secrets -/

namespace TwoSecrets

/-- Settings with a secret and a password. -/
def settings (secret password : String) : Settings :=
  { management := { password, apiKey := some "AK", secretKey := some secret } }

/-- The time for a batch: an hour for a job and a minute for a request. -/
def limit : Duration := .add (.ofSeconds 3600) (.ofSeconds 60)

/-- The session that is opened with the settings. -/
def session (secret password : String) : Session where
  settings := settings secret password
  client := Session.bootstrapClient (settings secret password)
  table := none
  classifier := .standard
  runner := ⟨Session.bootstrapClient (settings secret password), none, limit⟩
  identifier := none

/-- A world whose server refuses every request. -/
def world : World Unit :=
  ⟨⟨0⟩, fun _ _ => (⟨.zero, some (431, "\x7b\x7d")⟩, ()), (), .up, fun _ => Fin.last 61, 0, []⟩

/-- An empty batch, a question about privileges, and a command of a derived client. -/
def moves : List Move :=
  [.batch [] 1 .zero [], .operation (.label "t"), .operation (.errand .tier),
    .operation (.derive .session ⟨"UK", "US"⟩),
    .operation (.errand (.run (.client 0) (.named "listZones")))]

theorem connect_settings (secret password : String) :
    Session.connect (settings secret password) = .ok (some (session secret password)) := by
  have hvalid : (settings secret password).validate = .ok () := by
    simp [settings, Settings.validate, Settings.fault?]
  have hlimit : Session.batchTimeout? (settings secret password) = some limit :=
    if_pos (show limit.fits = true by decide)
  simp only [Session.connect, hvalid, Session.assemble?, hlimit]
  rfl

theorem sameButSecrets_settings (secret secret' password password' : String) :
    (settings secret password).SameButSecrets (settings secret' password') := ⟨rfl, rfl⟩

theorem ignoresSignatures_world : world.IgnoresSignatures := by
  intro urls urls' hurls
  induction hurls with
  | nil => rfl
  | cons _ _ ih => exact congrArg (_ :: ·) ih

theorem exists_runs_moves (secret password : String) :
    ∃ outcomes suite final,
      Suite.Runs { session := session secret password } world moves outcomes suite final := by
  obtain ⟨schedule, hschedule⟩ : ∃ schedule,
      (session secret password).runner.schedule? 0 1 .zero world.clock = some schedule :=
    ⟨_, JobRunner.schedule?_eq_some_iff.2
      ⟨_, if_pos (show (world.clock.later limit).fits = true by decide), by decide, rfl⟩⟩
  have hover : (JobRunner.Crew.initial (session secret password).runner [] schedule
      world).batch.IsOver schedule false := by
    refine ⟨?_, ?_, ?_⟩
    · exact fun _ => List.not_mem_nil
    · exact fun _ _ h => absurd h (by simp [JobRunner.Crew.initial, JobRunner.Batch.initial,
        JobRunner.stagesFrom])
    · exact fun _ h => absurd h List.not_mem_nil
  exact ⟨_, _, _, .cons (.batch hschedule .nil hover) (.cons (.operation _)
    (.cons (.operation _) (.cons (.operation _) (.cons (.operation _) (.nil _ _)))))⟩

/-- Two sessions sign with different secrets, and show the same at every move. -/
theorem exists_runs_that_show_same :
    (session "alpha" "one").client.connection.credentials ≠
        (session "beta" "two").client.connection.credentials ∧
      ∃ outcomes suite final outcomes' suite' final',
        Suite.Runs { session := session "alpha" "one" } world moves outcomes suite final ∧
        Suite.Runs { session := session "beta" "two" } world moves outcomes' suite' final' ∧
        List.Forall₂ Outcome.Agree outcomes outcomes' ∧ suite.ShowsSame suite' ∧
        List.Forall₂ Arrival.UpToSignature final.arrivals final'.arrivals ∧
        final.clock = final'.clock := by
  obtain ⟨outcomes, suite, final, hruns⟩ := exists_runs_moves "alpha" "one"
  obtain ⟨outcomes', suite', final', hruns', hsame⟩ :=
    (Session.secrets_areUnseen (sameButSecrets_settings "alpha" "beta" "one" "two")).2 _ _
      (.connected (connect_settings _ _) (connect_settings _ _)) world ignoresSignatures_world
      moves outcomes suite final hruns
  exact ⟨by decide, outcomes, suite, final, outcomes', suite', final', hruns, hruns', hsame⟩

end TwoSecrets

end ControlPlane
