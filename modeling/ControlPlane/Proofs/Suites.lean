import ControlPlane.Proofs.SecretConnections
import ControlPlane.Session

/-!
# Suites of tests

A test suite works through a session: it runs commands, asks what its credentials may do, has users
provided and their clients handed out, sets up fixtures, and submits batches (`Operation`). What it
gets from that are outcomes, and beside them the clients and fixtures that it keeps (`Suite`). A
batch may also have its work done in any order (`Move`).

Suites that differ in the bootstrap secret and the management password only come to the same by
every move, at servers that answer alike whatever the signatures are (`Suite.exists_performs`), and
so they do by moves one after another (`Suite.exists_runs`).
-/

namespace ControlPlane

open Signing

/-! ## What a suite does -/

/-- What a test suite has in hand. -/
structure Suite where
  session : Session
  /-- The clients that were handed out, the latest last. -/
  clients : List Client := []
  /-- The fixtures that were set up, the latest last. -/
  fixtures : List Fixture := []

/-- Whose client is used: the session's own, one that was handed out, or that of a fixture. -/
inductive Sender where
  | session
  | client (k : Nat)
  | fixture (k : Nat)

/-- Something that ends with a plain value. -/
inductive Errand : Type → Type 1
  | run (sender : Sender) (command : Command) : Errand CommandOutput
  | call {α : Type} (sender : Sender) (call : Call α) : Errand α
  | deleteAccount (sender : Sender) (id : String) : Errand Unit
  | waitForJob (sender : Sender) (command jobId : String) : Errand Job
  | tier : Errand PrivilegeTier
  | isAdmin : Errand Bool
  | ensureUser (accountName domainName : String) (accountType : AccountType) :
    Errand UserCredentials
  | tearDown (k : Nat) : Errand Unit

/-- Something that a test suite does. -/
inductive Operation : Type 1
  /-- Labels the session with a test. -/
  | label (identifier : String)
  | useClassifier (classifier : Classifier)
  | errand {α : Type} (errand : Errand α)
  /-- Has the client of a user handed out. -/
  | userClient (accountName domainName : String) (accountType : AccountType)
  /-- Derives a client of given keys. -/
  | derive (sender : Sender) (pair : KeyPair)
  | setUp (accountName domainName : String) (accountType : AccountType)
  | submitAll (commands : List Command) (workers : Option Nat)
  /-- Submits commands an interval apart. -/
  | submitApart (commands : List Command) (workers : Nat) (interval : Duration)

/-- What an operation returns; a result is absent if it broke off. -/
inductive Outcome : Type 1
  | silent
  | value {α : Type} (result : Option (Except ClientError α))
  | client (result : Option (Except ClientError Client))
  | fixture (result : Option (Except ClientError Fixture))
  | report (report : Option BatchReport)

namespace Suite

/-- The client of a sender. -/
def client? (suite : Suite) : Sender → Option Client
  | .session => some suite.session.apiClient
  | .client k => suite.clients[k]?
  | .fixture k => suite.fixtures[k]?.map Fixture.client

/-- What is done on an errand; nothing, if there is nobody to do it. -/
def action? (suite : Suite) {α : Type} : Errand α → Option (Action α)
  | .run sender command => (suite.client? sender).map (·.executeRaw command)
  | .call sender call => (suite.client? sender).map (·.execute call)
  | .deleteAccount sender id => (suite.client? sender).map (·.deleteAccount id)
  | .waitForJob sender command jobId =>
    (suite.client? sender).map (·.connection.waitForJob command jobId)
  | .tier => some suite.session.privilegeTier
  | .isAdmin => some suite.session.isAdminContext
  | .ensureUser accountName domainName accountType =>
    some (suite.session.ensureUser accountName domainName accountType)
  | .tearDown k => suite.fixtures[k]?.map fun fixture => fixture.teardown suite.session

/-- Keeps a client that was handed out. -/
def keepClient (suite : Suite) : Option (Except ClientError Client) → Suite
  | some (.ok client) => { suite with clients := suite.clients ++ [client] }
  | _ => suite

/-- Keeps a fixture that was set up. -/
def keepFixture (suite : Suite) : Option (Except ClientError Fixture) → Suite
  | some (.ok fixture) => { suite with fixtures := suite.fixtures ++ [fixture] }
  | _ => suite

variable {σ : Type}

/-- Carries out one operation. -/
def perform (suite : Suite) (world : World σ) : Operation → Outcome × Suite × World σ
  | .label identifier =>
    (.silent, { suite with session := suite.session.withIdentifier identifier }, world)
  | .useClassifier classifier =>
    (.silent, { suite with session := suite.session.withClassifier classifier }, world)
  | .errand errand =>
    match suite.action? errand with
    | none => (.silent, suite, world)
    | some action =>
      let (result, world) := action.run world
      (.value result, suite, world)
  | .userClient accountName domainName accountType =>
    let (result, world) :=
      (suite.session.userClient accountName domainName accountType).run world
    (.client result, suite.keepClient result, world)
  | .derive sender pair =>
    match suite.client? sender with
    | none => (.silent, suite, world)
    | some client => (.silent, suite.keepClient (some (.ok (client.derive pair))), world)
  | .setUp accountName domainName accountType =>
    let (result, world) :=
      (Fixture.setup suite.session accountName domainName accountType).run world
    (.fixture result, suite.keepFixture result, world)
  | .submitAll commands workers =>
    let (report, world) := suite.session.submitAll commands workers world
    (.report report, suite, world)
  | .submitApart commands workers interval =>
    let (report, world) := suite.session.runner.run commands workers interval world
    (.report report, suite, world)

end Suite

/-- A move of a suite: an operation, or a batch whose work gets its turns in a given order, the
latest first. -/
inductive Move : Type 1
  | operation (operation : Operation)
  | batch (commands : List Command) (workers : Nat) (interval : Duration)
    (order : List JobRunner.Event)

namespace Suite

variable {σ : Type}

/-- What a move returns and leaves behind. -/
inductive Performs (suite : Suite) (world : World σ) : Move → Outcome → Suite → World σ → Prop
  | operation (operation : Operation) :
    Performs suite world (.operation operation) (suite.perform world operation).1
      (suite.perform world operation).2.1 (suite.perform world operation).2.2
  | batch {commands : List Command} {workers : Nat} {interval : Duration} {schedule : Schedule}
    {order : List JobRunner.Event} {crew : JobRunner.Crew σ} {timedOut : Bool}
    (hschedule : suite.session.runner.schedule? commands.length workers interval world.clock =
      some schedule)
    (hruns : JobRunner.Crew.Runs schedule (.initial suite.session.runner commands schedule world)
      order crew)
    (hover : crew.batch.IsOver schedule timedOut) :
    Performs suite world (.batch commands workers interval order)
      (.report (some (crew.batch.report world.clock commands timedOut))) suite crew.batch.world

/-- What moves one after another return and leave behind. -/
inductive Runs : Suite → World σ → List Move → List Outcome → Suite → World σ → Prop
  | nil (suite : Suite) (world : World σ) : Runs suite world [] [] suite world
  | cons {suite next last : Suite} {world after final : World σ} {move : Move} {moves : List Move}
    {outcome : Outcome} {outcomes : List Outcome}
    (hmove : suite.Performs world move outcome next after)
    (hmoves : Runs next after moves outcomes last final) :
    Runs suite world (move :: moves) (outcome :: outcomes) last final

end Suite

/-! ## Clients and sessions with other secrets -/

namespace Client

/-- The same client up to secrets. -/
structure SameButSecrets (client client' : Client) : Prop where
  connection : client.connection.SameButSecrets client'.connection
  identifier : client.identifier = client'.identifier
  hypervisor : client.hypervisor = client'.hypervisor

variable {client client' : Client} (h : client.SameButSecrets client')
include h

theorem SameButSecrets.description : client.description = client'.description := by
  unfold Client.description
  rw [h.connection.endpoint, h.connection.apiKey?, h.identifier, h.hypervisor]

theorem SameButSecrets.withIdentifier (identifier : Option String) :
    (client.withIdentifier identifier).SameButSecrets (client'.withIdentifier identifier) :=
  { h with identifier := rfl }

theorem SameButSecrets.derive (pair : KeyPair) :
    (client.derive pair).SameButSecrets (client'.derive pair) :=
  { h with connection := h.connection.withKeys pair }

theorem SameButSecrets.sendsAlike :
    client.connection.SendsAlike Likeness.signed (ClientError.Agree TextUpToSignature)
      client'.connection :=
  Connection.sendsAlike_of_sameButSecrets h.connection

theorem SameButSecrets.alike :
    client.Alike Likeness.signed (ClientError.Agree TextUpToSignature) Eq client' :=
  alike_of_sendsAlike h.sendsAlike (fun _ _ herror => herror.isAuthorizationFailure)
    h.connection.apiKey?

theorem alike_deleteAccount (id : String) :
    Action.Alike Likeness.signed (ClientError.Agree TextUpToSignature) Eq (client.deleteAccount id)
      (client'.deleteAccount id) := by
  refine (Connection.alike_execute h.sendsAlike _).bind ?_
  rintro report - rfl
  cases report.isSuccess with
  | true => exact Action.alike_pure rfl
  | false => exact Action.alike_throw (ClientError.agree_self _)

end Client

namespace Session

/-- The same session up to secrets. -/
structure SameButSecrets (session session' : Session) : Prop where
  client : session.client.SameButSecrets session'.client
  table : session.table = session'.table
  classifier : session.classifier = session'.classifier
  identifier : session.identifier = session'.identifier
  workers : session.settings.defaultWorkers = session'.settings.defaultWorkers
  runnerClient : session.runner.client.SameButSecrets session'.runner.client
  runnerTable : session.runner.table = session'.runner.table
  batchTimeout : session.runner.batchTimeout = session'.runner.batchTimeout

variable {session session' : Session} (h : session.SameButSecrets session')
include h

theorem SameButSecrets.description : session.description = session'.description := by
  unfold Session.description
  rw [h.client.description, h.table, h.identifier]

theorem SameButSecrets.apiClient : session.apiClient.SameButSecrets session'.apiClient := by
  rw [Session.apiClient, Session.apiClient, h.identifier]
  exact h.client.withIdentifier _

theorem SameButSecrets.runner :
    session.runner.Alike Likeness.signed TextUpToSignature session'.runner where
  table := h.runnerTable
  batchTimeout := h.batchTimeout
  executeRaw command := Connection.alike_executeRaw h.runnerClient.sendsAlike command

theorem alike_privilegeTier :
    Action.Alike Likeness.signed (ClientError.Agree TextUpToSignature) Eq session.privilegeTier
      session'.privilegeTier := by
  rw [privilegeTier, privilegeTier, h.classifier]
  exact Classifier.alike_classify h.client.alike _

theorem alike_isAdminContext :
    Action.Alike Likeness.signed (ClientError.Agree TextUpToSignature) Eq session.isAdminContext
      session'.isAdminContext :=
  (alike_privilegeTier h).bind fun _ _ htier => Action.alike_pure (congrArg _ htier)

theorem alike_ensureUser (accountName domainName : String) (accountType : AccountType) :
    Action.Alike Likeness.signed (ClientError.Agree TextUpToSignature) Eq
      (session.ensureUser accountName domainName accountType)
      (session'.ensureUser accountName domainName accountType) :=
  (Provisioning.alike_ensureUser h.client.alike accountName domainName accountType).imp
    fun _ _ => UserCredentials.eq_of_agree

/-- The clients of users are the same up to secrets; their own keys come from the server. -/
theorem alike_userClient (accountName domainName : String) (accountType : AccountType) :
    Action.Alike Likeness.signed (ClientError.Agree TextUpToSignature) Client.SameButSecrets
      (session.userClient accountName domainName accountType)
      (session'.userClient accountName domainName accountType) := by
  rw [userClient, userClient, h.identifier]
  refine Action.Alike.bind (V := Client.SameButSecrets) ?_ fun client client' hclient =>
    Action.alike_pure (hclient.withIdentifier _)
  refine (alike_privilegeTier h).bind ?_
  rintro tier - rfl
  cases tier.isAdmin with
  | true =>
    -- the keys of the client come from the server, its password from the settings
    refine (alike_ensureUser h accountName domainName accountType).bind ?_
    rintro credentials - rfl
    exact Action.alike_pure (h.client.derive _)
  | false => exact Action.alike_pure h.client

end Session

/-- The same fixture up to secrets. -/
structure Fixture.SameButSecrets (fixture fixture' : Fixture) : Prop where
  credentials : fixture.credentials = fixture'.credentials
  client : fixture.client.SameButSecrets fixture'.client

theorem Fixture.alike_setup {session session' : Session} (h : session.SameButSecrets session')
    (accountName domainName : String) (accountType : AccountType) :
    Action.Alike Likeness.signed (ClientError.Agree TextUpToSignature) Fixture.SameButSecrets
      (Fixture.setup session accountName domainName accountType)
      (Fixture.setup session' accountName domainName accountType) := by
  refine (Session.alike_ensureUser h accountName domainName accountType).bind ?_
  rintro credentials - rfl
  exact Action.alike_pure ⟨rfl, h.apiClient.derive _⟩

/-! ## Suites with other secrets -/

/-- The same outcome up to secrets, and up to signatures in the texts of errors. -/
inductive Outcome.Agree : Outcome → Outcome → Prop
  | silent : Agree .silent .silent
  | value {α : Type} {result result' : Option (Except ClientError α)}
    (h : Option.Rel (Results (ClientError.Agree TextUpToSignature) Eq) result result') :
    Agree (.value result) (.value result')
  | client {result result' : Option (Except ClientError Client)}
    (h : Option.Rel
      (Results (ClientError.Agree TextUpToSignature) Client.SameButSecrets) result result') :
    Agree (.client result) (.client result')
  | fixture {result result' : Option (Except ClientError Fixture)}
    (h : Option.Rel
      (Results (ClientError.Agree TextUpToSignature) Fixture.SameButSecrets)
      result result') :
    Agree (.fixture result) (.fixture result')
  | report {report report' : Option BatchReport}
    (h : Option.Rel (BatchReport.Agree TextUpToSignature) report report') :
    Agree (.report report) (.report report')

namespace Suite

/-- The same suite up to secrets. -/
structure SameButSecrets (suite suite' : Suite) : Prop where
  session : suite.session.SameButSecrets suite'.session
  clients : List.Forall₂ Client.SameButSecrets suite.clients suite'.clients
  fixtures : List.Forall₂ Fixture.SameButSecrets suite.fixtures suite'.fixtures

section Operations

variable {suite suite' : Suite} (h : suite.SameButSecrets suite')
include h

theorem rel_client? (sender : Sender) :
    Option.Rel Client.SameButSecrets (suite.client? sender) (suite'.client? sender) := by
  cases sender with
  | session => exact .some h.session.apiClient
  | client k => exact rel_getElem? h.clients k
  | fixture k => exact rel_map (rel_getElem? h.fixtures k) fun _ _ hfixture => hfixture.client

/-- An errand is done alike, or in neither suite is there anybody to do it. -/
theorem rel_action? {α : Type} (errand : Errand α) :
    Option.Rel (Action.Alike Likeness.signed (ClientError.Agree TextUpToSignature) Eq)
      (suite.action? errand) (suite'.action? errand) := by
  cases errand with
  | run sender command =>
    exact rel_map (rel_client? h sender) fun _ _ hclient =>
      Connection.alike_executeRaw hclient.sendsAlike command
  | call sender call =>
    exact rel_map (rel_client? h sender) fun _ _ hclient =>
      Connection.alike_execute hclient.sendsAlike call
  | deleteAccount sender id =>
    exact rel_map (rel_client? h sender) fun _ _ hclient => Client.alike_deleteAccount hclient id
  | waitForJob sender command jobId =>
    exact rel_map (rel_client? h sender) fun _ _ hclient =>
      Connection.alike_waitForJob hclient.sendsAlike command jobId
  | tier => exact .some (Session.alike_privilegeTier h.session)
  | isAdmin => exact .some (Session.alike_isAdminContext h.session)
  | ensureUser accountName domainName accountType =>
    exact .some (Session.alike_ensureUser h.session accountName domainName accountType)
  | tearDown k =>
    refine rel_map (rel_getElem? h.fixtures k) fun fixture fixture' hfixture => ?_
    rw [Fixture.teardown, Fixture.teardown, hfixture.credentials]
    exact Client.alike_deleteAccount h.session.apiClient _

theorem sameButSecrets_keepClient {result result' : Option (Except ClientError Client)}
    (hresult : Option.Rel
      (Results (ClientError.Agree TextUpToSignature) Client.SameButSecrets) result result') :
    (suite.keepClient result).SameButSecrets (suite'.keepClient result') := by
  cases hresult with
  | none => exact h
  | some hresult =>
    cases hresult with
    | ok hclient =>
      exact { h with clients := List.rel_append h.clients (.cons hclient .nil) }
    | error _ => exact h

theorem sameButSecrets_keepFixture {result result' : Option (Except ClientError Fixture)}
    (hresult : Option.Rel
      (Results (ClientError.Agree TextUpToSignature) Fixture.SameButSecrets)
      result result') :
    (suite.keepFixture result).SameButSecrets (suite'.keepFixture result') := by
  cases hresult with
  | none => exact h
  | some hresult =>
    cases hresult with
    | ok hfixture =>
      exact { h with fixtures := List.rel_append h.fixtures (.cons hfixture .nil) }
    | error _ => exact h

variable {σ : Type} {world world' : World σ} (hworld : world.Alike Likeness.signed world')
include hworld

/-- Every operation comes to the same, up to secrets and signatures, and leaves the same behind. -/
theorem alike_perform (operation : Operation) :
    (suite.perform world operation).1.Agree (suite'.perform world' operation).1 ∧
      (suite.perform world operation).2.1.SameButSecrets (suite'.perform world' operation).2.1 ∧
      (suite.perform world operation).2.2.Alike Likeness.signed
        (suite'.perform world' operation).2.2 := by
  cases operation with
  | label identifier =>
    exact ⟨.silent, { h with session := { h.session with identifier := rfl } }, hworld⟩
  | useClassifier classifier =>
    exact ⟨.silent, { h with session := { h.session with classifier := rfl } }, hworld⟩
  | errand errand =>
    have haction := rel_action? h errand
    rw [perform, perform]
    generalize suite.action? errand = action at haction
    generalize suite'.action? errand = action' at haction
    cases haction with
    | none => exact ⟨.silent, h, hworld⟩
    | some haction =>
      obtain ⟨hresult, hafter⟩ := Action.alike_run haction hworld
      exact ⟨.value hresult, h, hafter⟩
  | userClient accountName domainName accountType =>
    have hrun := Action.alike_run
      (Session.alike_userClient h.session accountName domainName accountType) hworld
    rw [perform, perform]
    generalize (suite.session.userClient accountName domainName accountType).run world = reached
      at hrun
    generalize (suite'.session.userClient accountName domainName accountType).run world' = reached'
      at hrun
    exact ⟨.client hrun.1, sameButSecrets_keepClient h hrun.1, hrun.2⟩
  | derive sender pair =>
    have hclient := rel_client? h sender
    rw [perform, perform]
    generalize suite.client? sender = client at hclient
    generalize suite'.client? sender = client' at hclient
    cases hclient with
    | none => exact ⟨.silent, h, hworld⟩
    | some hclient =>
      exact ⟨.silent, sameButSecrets_keepClient h (.some (.ok (hclient.derive pair))), hworld⟩
  | setUp accountName domainName accountType =>
    have hrun := Action.alike_run
      (Fixture.alike_setup h.session accountName domainName accountType) hworld
    rw [perform, perform]
    generalize (Fixture.setup suite.session accountName domainName accountType).run world = reached
      at hrun
    generalize (Fixture.setup suite'.session accountName domainName accountType).run world' =
      reached' at hrun
    exact ⟨.fixture hrun.1, sameButSecrets_keepFixture h hrun.1, hrun.2⟩
  | submitAll commands workers =>
    obtain ⟨hreport, hafter⟩ := JobRunner.alike_run textUpToSignature_refl h.session.runner hworld
      commands (workers.getD suite.session.settings.defaultWorkers) .zero
    rw [perform, perform, Session.submitAll, Session.submitAll, ← h.session.workers]
    exact ⟨.report hreport, h, hafter⟩
  | submitApart commands workers interval =>
    obtain ⟨hreport, hafter⟩ := JobRunner.alike_run textUpToSignature_refl h.session.runner hworld
      commands workers interval
    exact ⟨.report hreport, h, hafter⟩

/-- What a move comes to in one suite, it comes to in the other, up to secrets and signatures. -/
theorem exists_performs {move : Move} {outcome : Outcome} {next : Suite} {after : World σ}
    (hmove : suite.Performs world move outcome next after) :
    ∃ outcome' next' after', suite'.Performs world' move outcome' next' after' ∧
      outcome.Agree outcome' ∧ next.SameButSecrets next' ∧
      after.Alike Likeness.signed after' := by
  cases hmove with
  | operation operation => exact ⟨_, _, _, .operation operation, alike_perform h hworld operation⟩
  | batch hschedule hruns hover =>
    have hrunner := h.session.runner
    obtain ⟨crew', hruns', hcrew⟩ := JobRunner.Crew.exists_alike_runs
      (JobRunner.Crew.alike_initial hrunner hworld _ _) hruns
    refine ⟨_, _, _, .batch ?_ hruns' (JobRunner.Crew.isOver_congr hcrew hover), ?_, h, hcrew.world⟩
    · rw [← hschedule, JobRunner.schedule?, JobRunner.schedule?, hrunner.batchTimeout, hworld.clock]
    · rw [JobRunner.Batch.report, JobRunner.Batch.report, hworld.clock, hcrew.world.clock]
      exact .report (.some (JobRunner.agree_reportOf textUpToSignature_refl _ _ _ _ hcrew.slots))

end Operations

/-- Moves one after another come to the same in two suites that differ in secrets only. -/
theorem exists_runs {suite suite' last : Suite} {σ : Type} {world world' final : World σ}
    {moves : List Move} {outcomes : List Outcome} (h : suite.SameButSecrets suite')
    (hworld : world.Alike Likeness.signed world')
    (hruns : suite.Runs world moves outcomes last final) :
    ∃ outcomes' last' final', suite'.Runs world' moves outcomes' last' final' ∧
      List.Forall₂ Outcome.Agree outcomes outcomes' ∧ last.SameButSecrets last' ∧
      final.Alike Likeness.signed final' := by
  induction hruns generalizing suite' world' with
  | nil suite world => exact ⟨[], suite', world', .nil _ _, .nil, h, hworld⟩
  | cons hmove _ ih =>
    obtain ⟨outcome', next', after', hmove', houtcome, hnext, hafter⟩ :=
      exists_performs h hworld hmove
    obtain ⟨outcomes', last', final', hmoves', houtcomes, hlast, hfinal⟩ := ih hnext hafter
    exact ⟨_, _, _, .cons hmove' hmoves', .cons houtcome houtcomes, hlast, hfinal⟩

end Suite

end ControlPlane
