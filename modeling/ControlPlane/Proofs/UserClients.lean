import ControlPlane.Proofs.Classification
import ControlPlane.Proofs.SmallControlPlane
import ControlPlane.Proofs.TimelessActions
import ControlPlane.Session

/-!
# Two ways to a user's client

A test gets a client of a user in two ways. It asks the session for one, which first finds out
whether the credentials in use are an administrator's, and then provides the user and labels the
client that is derived; or it sets up a fixture, which provides the user at once and derives the
client from one that has the label already.

Providing a user does not depend on time, so the two can be compared though they are begun at
different times and in different states of the server. Main statement: for an administrator both
ways come to the same client or to the same error, and after the questions of the classification
they take the same exchanges (`userClient_agrees_with_setup`).
-/

namespace ControlPlane

/-! ## Nothing here depends on time -/

namespace Provisioning

open ControlPlane.Action Connection

theorem isTimeless_ensureDomain (client : Client) (name : String) :
    (ensureDomain client name).IsTimeless 0 := by
  refine isTimeless_bind (m := 0) ?_ fun domains => ?_
  · exact isTimeless_bind (m := 0) (isTimeless_execute _ rfl) fun _ => isTimeless_pure _
  · cases domains.find? fun domain => domain.name == name with
    | some domain => exact isTimeless_pure domain
    | none => exact isTimeless_execute _ rfl

theorem isTimeless_ensureAccount (client : Client) (name : String) (domain : Domain)
    (accountType : AccountType) : (ensureAccount client name domain accountType).IsTimeless 6 := by
  refine isTimeless_bind (n := 0) (m := 6) ?_ fun accounts => ?_
  · exact isTimeless_bind (m := 0) (isTimeless_execute _ rfl) fun _ => isTimeless_pure _
  · cases accounts.find? fun account => account.name == name with
    | some account => exact isTimeless_pure account
    | none =>
      exact isTimeless_bind (m := 0) (isTimeless_letters 6) fun random =>
        isTimeless_execute _ rfl

theorem isTimeless_findUser (client : Client) (account : Account) :
    (findUser client account).IsTimeless 0 := by
  refine isTimeless_bind (m := 0) ?_ fun users => ?_
  · exact isTimeless_bind (m := 0) (isTimeless_execute _ rfl) fun _ => isTimeless_pure _
  · cases users with
    | cons user rest => exact isTimeless_pure user
    | nil => exact isTimeless_throw (noUser account)

theorem isTimeless_ensureKeys (client : Client) (user : User) :
    (ensureKeys client user).IsTimeless 0 := by
  rw [ensureKeys]
  cases user.keyPair? with
  | some keys => exact isTimeless_pure keys
  | none =>
    cases user.apiKey.isSome with
    | true => exact isTimeless_execute _ rfl
    | false => exact isTimeless_execute _ rfl

/-- Providing a user draws the letters of one mail address at most. -/
theorem isTimeless_ensureUser (client : Client) (accountName domainName : String)
    (accountType : AccountType) :
    (ensureUser client accountName domainName accountType).IsTimeless 6 := by
  refine isTimeless_bind (n := 0) (m := 6) (isTimeless_ensureDomain client domainName) ?_
  intro domain
  refine isTimeless_bind (n := 6) (m := 0)
    (isTimeless_ensureAccount client accountName domain accountType) ?_
  intro account
  refine isTimeless_bind (m := 0) (isTimeless_findUser client account) fun user => ?_
  exact isTimeless_bind (m := 0) (isTimeless_ensureKeys client user) fun keys => isTimeless_pure _

end Provisioning

namespace Probe

open ControlPlane.Action Connection

theorem isTimeless_orIfRefused {α : Type} {action : Action α} {n : Nat}
    (h : action.IsTimeless n) (value : α) : (orIfRefused action value).IsTimeless n := by
  refine Dialogue.isTimeless_bind (m := 0) h fun result => ?_
  cases result with
  | ok a => exact .done _
  | error error =>
    cases herror : error.isAuthorizationFailure with
    | true =>
      simp only [herror]
      exact .done _
    | false =>
      simp only [herror]
      exact .done _

theorem isTimeless_ask (client : Client) (probe : Probe) : (probe.ask client).IsTimeless 0 := by
  have hlist : ∀ {α β : Type} {call : Call (Listing α)} (f : List α → β), call.isAsync = false →
      (do
        let items ← (do
          let listing ← client.execute call
          return listing.items)
        return f items : Action β).IsTimeless 0 := fun f hcall =>
    isTimeless_bind (m := 0)
      (isTimeless_bind (m := 0) (isTimeless_execute _ hcall) fun _ => isTimeless_pure _)
      fun _ => isTimeless_pure _
  cases probe with
  | accountType =>
    rw [ask]
    cases client.connection.apiKey? with
    | none => exact isTimeless_pure none
    | some apiKey => exact isTimeless_orIfRefused (hlist (ownTier? apiKey) rfl) none
  | rootDomain =>
    exact isTimeless_orIfRefused (hlist (fun domains => some (tierOfDomains domains)) rfl) _

end Probe

theorem Classifier.isTimeless_classify (client : Client) (classifier : Classifier) :
    (classifier.classify client).IsTimeless 0 := by
  induction classifier with
  | nil => exact Action.isTimeless_throw inconclusive
  | cons probe rest ih =>
    refine Action.isTimeless_bind (m := 0) (Probe.isTimeless_ask client probe) fun tier => ?_
    cases tier with
    | some tier => exact Action.isTimeless_pure tier
    | none => exact ih

/-! ## Clients of a session's users -/

namespace Session

variable {σ τ : Type}

/-- A client acts with a key pair; all the rest it has from a session. -/
structure IsUserClient (session : Session) (keys : KeyPair) (client : Client) : Prop where
  credentials : client.connection.credentials = .keys keys
  endpoint : client.connection.endpoint = session.client.connection.endpoint
  username : client.connection.username = session.client.connection.username
  password : client.connection.password = session.client.connection.password
  requestTimeout : client.connection.requestTimeout = session.client.connection.requestTimeout
  asyncTimeout : client.connection.asyncTimeout = session.client.connection.asyncTimeout
  pollInterval : client.connection.pollInterval = session.client.connection.pollInterval
  hypervisor : client.hypervisor = session.client.hypervisor
  identifier : client.identifier = session.identifier

/-- That leaves nothing open about a client. -/
theorem IsUserClient.unique {session : Session} {keys : KeyPair} {client other : Client}
    (h : session.IsUserClient keys client) (hother : session.IsUserClient keys other) :
    other = client := by
  obtain ⟨⟨endpoint, credentials, username, password, request, job, poll⟩, label, hyper⟩ := client
  obtain ⟨⟨_, _, _, _, _, _, _⟩, _, _⟩ := other
  obtain ⟨rfl, rfl, rfl, rfl, rfl, rfl, rfl, rfl, rfl⟩ := h
  obtain ⟨rfl, rfl, rfl, rfl, rfl, rfl, rfl, rfl, rfl⟩ := hother
  rfl

/-- Its requests are those of the session's endpoint, signed with the keys. -/
theorem IsUserClient.urlText {session : Session} {keys : KeyPair} {client : Client}
    (h : session.IsUserClient keys client) (command : Command) :
    client.connection.urlText command =
      session.client.connection.endpoint ++ "?" ++ Connection.query (.keys keys) command := by
  rw [Connection.urlText, h.endpoint, h.credentials]

theorem isUserClient_derive (session : Session) (keys : KeyPair) :
    session.IsUserClient keys (session.apiClient.derive keys) :=
  ⟨rfl, rfl, rfl, rfl, rfl, rfl, rfl, rfl, rfl⟩

/-- After the classification of an administrator, asking for a client goes on with providing the
user. -/
theorem userClient_eq (session : Session) (accountName domainName : String)
    (accountType : AccountType) :
    session.userClient accountName domainName accountType = (do
      let tier ← session.privilegeTier
      if tier.isAdmin then do
        let credentials ← session.ensureUser accountName domainName accountType
        return session.apiClient.derive credentials.keys
      else return session.apiClient) := by
  rw [userClient, Provisioning.userClient, Action.bind_assoc]
  refine congrArg _ (funext fun tier => ?_)
  cases tier.isAdmin with
  | true => exact Action.bind_assoc _ _ _
  | false => rfl

section

variable {session : Session} {accountName domainName : String} {accountType : AccountType}

/-- What setting up a fixture comes to is what providing the user comes to. -/
theorem run_setup {world : World σ} {provided : Except ClientError UserCredentials}
    (h : ((session.ensureUser accountName domainName accountType).run world).1 = some provided) :
    ((Fixture.setup session accountName domainName accountType).run world).1 =
      some (provided.map fun credentials =>
        { credentials, client := session.apiClient.derive credentials.keys }) := by
  rw [Fixture.setup, Action.run_map, h]
  rfl

theorem run_userClient {world between : World σ} {tier : PrivilegeTier}
    (htier : session.privilegeTier.run world = (some (.ok tier), between))
    (hadmin : tier.isAdmin = true) {provided : Except ClientError UserCredentials}
    (h : ((session.ensureUser accountName domainName accountType).run between).1 = some provided) :
    ((session.userClient accountName domainName accountType).run world).1 =
      some (provided.map fun credentials => session.apiClient.derive credentials.keys) := by
  rw [userClient_eq, Action.run_bind_ok htier]
  simp only [hadmin, if_true]
  rw [Action.run_map, h]
  rfl

theorem exchanges_userClient {world between : World σ} {tier : PrivilegeTier}
    (htier : session.privilegeTier.run world = (some (.ok tier), between))
    (hadmin : tier.isAdmin = true) :
    (ExceptT.run (session.userClient accountName domainName accountType)).exchanges world =
      (ExceptT.run session.privilegeTier).exchanges world ++
        (ExceptT.run (session.ensureUser accountName domainName accountType)).exchanges
          between := by
  rw [userClient_eq]
  refine (Dialogue.exchanges_bind htier _).trans (congrArg _ ?_)
  simp only [ExceptT.bindCont, hadmin, if_true]
  exact Action.exchanges_map _ _ between

/-- For an administrator, asking for a client and setting up a fixture agree in worlds that agree:
they come to the same client or to the same error, and apart from the questions of the
classification they take the same exchanges. The client acts with the keys of the user that was
provided and is the only such client, so that its requests are the same whichever way it came. -/
theorem userClient_agrees_with_setup {reply : Request → Delivery} {world : World σ}
    {world' : World τ} {tier : PrivilegeTier} (hagree : World.Agree reply 6 world world')
    (htier : (session.privilegeTier.run world).1 = some (.ok tier))
    (hadmin : tier.isAdmin = true) :
    ∃ result : Except ClientError Fixture,
      ((Fixture.setup session accountName domainName accountType).run world').1 = some result ∧
      ((session.userClient accountName domainName accountType).run world).1 =
        some (result.map Fixture.client) ∧
      (ExceptT.run (session.userClient accountName domainName accountType)).exchanges world =
        (ExceptT.run session.privilegeTier).exchanges world ++
          (ExceptT.run (Fixture.setup session accountName domainName accountType)).exchanges
            world' ∧
      ∀ fixture, result = .ok fixture →
        ((session.ensureUser accountName domainName accountType).run world').1 =
            some (.ok fixture.credentials) ∧
          session.IsUserClient fixture.credentials.keys fixture.client ∧
          (∀ other, session.IsUserClient fixture.credentials.keys other →
            other = fixture.client) ∧
          ∀ command, fixture.client.connection.urlText command =
            session.client.connection.endpoint ++ "?" ++
              Connection.query (.keys fixture.credentials.keys) command := by
  rcases hrun : session.privilegeTier.run world with ⟨_, between⟩
  obtain rfl : _ = some (Except.ok tier) := (congrArg Prod.fst hrun).symm.trans htier
  have hbetween : World.Agree reply 6 between world' := by
    have hbetween : (session.privilegeTier.run world).2 = between := congrArg Prod.snd hrun
    rw [← hbetween]
    exact Dialogue.agree_run_of_isTimeless
      (Classifier.isTimeless_classify session.client session.classifier) hagree
  obtain ⟨provided, hprovided, hprovided', hexchanges⟩ := Dialogue.eq_of_isTimeless
    (Provisioning.isTimeless_ensureUser session.client accountName domainName accountType) hbetween
  refine ⟨_, run_setup hprovided', ?_, ?_, ?_⟩
  · rw [run_userClient hrun hadmin hprovided]
    cases provided with
    | ok credentials => rfl
    | error error => rfl
  · rw [exchanges_userClient hrun hadmin]
    refine congrArg _ (hexchanges.trans ?_)
    exact (Action.exchanges_map _ _ world').symm
  · intro fixture hfixture
    cases provided with
    | error error => exact absurd hfixture (by simp [Except.map])
    | ok credentials =>
      obtain rfl := Except.ok.inj hfixture
      have hclient := isUserClient_derive session credentials.keys
      exact ⟨hprovided', hclient, fun other => hclient.unique, hclient.urlText⟩

end

end Session

/-! ## A control plane with one reply -/

namespace OneReply

open SmallControlPlane Provisioning Connection

/-- A listing of a domain, an account and a user at once, each of them written as an array. -/
def text : String :=
  "\x7b\"domain\":[[\"d-1\",\"dept\"]],\"account\":[[\"a-1\",\"alice\",0,\"d-1\"]]," ++
    "\"user\":[[\"u-1\",\"alice\",null,null,null,null,null,null,null,null,\"AK\",\"SK\"]]\x7d"

/-- The account, listed without its user. -/
def alone : Account := ⟨"a-1", "alice", .normal, "d-1", none, none, []⟩

/-- The user, with a key pair. -/
def user : User := ⟨"u-1", "alice", none, none, none, none, none, none, none, none, "AK", "SK"⟩

/-- A session on the integration port, at work for a test. -/
def session : Session where
  settings := { management := { host := "127.0.0.1", port := 8080 } }
  client := { connection, hypervisor := some "kvm" }
  table := none
  classifier := .standard
  runner := ⟨{ connection }, none, .ofSeconds 60⟩
  identifier := some "test_deploy"

section

variable {horizon : Instant} {lapse : Prop} {reply : String}

/-- Where everything gets the same reply, a call comes to what is read off it. -/
theorem settles_execute {α : Type} {call : Call α} (hcall : call.isAsync = false) {a : α}
    (hread : readReply call.name call.decode (200, reply) = .ok a) :
    (ExceptT.run (connection.execute call)).Settles (fun _ => .reply 200 reply) horizon lapse
      (· = .ok a) := by
  obtain ⟨url, hurl, -⟩ := exists_url call.toCommand
  have hbody : connection.bodyOf (fun _ => .reply 200 reply) call.toCommand =
      Envelope.decode call.name 200 reply := by
    rw [bodyOf, hurl]
    rfl
  simp only [readReply] at hread
  rw [execute_of_not_isAsync connection hcall]
  refine Dialogue.settles_action_bind (settles_send connection call.toCommand) ?_ ?_
  · intro body hdecode
    rw [← hbody, ← hdecode] at hread
    exact .done hread
  · intro error hdecode
    rw [← hbody, ← hdecode] at hread
    exact absurd hread (by simp)

theorem settles_list {α β : Type} {call : Call (Listing α)} (hcall : call.isAsync = false)
    {listing : Listing α} (hread : readReply call.name call.decode (200, reply) = .ok listing)
    {f : List α → Action β} {P : Except ClientError β → Prop}
    (h : (ExceptT.run (f listing.items)).Settles (fun _ => .reply 200 reply) horizon lapse P) :
    (ExceptT.run (do
      let items ← (do
        let listing ← connection.execute call
        return listing.items : Action (List α))
      f items)).Settles (fun _ => .reply 200 reply) horizon lapse P := by
  rw [Action.bind_assoc]
  refine Dialogue.settles_action_bind (settles_execute hcall hread) ?_ ?_
  · rintro _ ⟨⟩
    exact h
  · rintro _ ⟨⟩

/-- The domain, the account and the user can be read off a reply. -/
structure Lists (reply : String) : Prop where
  domains : readReply "listDomains" Listing.domains (200, reply) = .ok ⟨none, [dept]⟩
  accounts : readReply "listAccounts" Listing.accounts (200, reply) = .ok ⟨none, [alone]⟩
  users : readReply "listUsers" Listing.users (200, reply) = .ok ⟨none, [user]⟩

/-- The credentials in use may list a domain, but do not see the root. -/
theorem settles_privilegeTier (h : Lists reply) :
    (ExceptT.run session.privilegeTier).Settles (fun _ => .reply 200 reply) horizon lapse
      (· = .ok .domainAdmin) := by
  have hlisted : (ExceptT.run (do
      let domains ← session.client.listDomains { name := some Domain.rootName }
      return some (Probe.tierOfDomains domains) : Action (Option PrivilegeTier))).Settles
        (fun _ => .reply 200 reply) horizon lapse (· = .ok (some .domainAdmin)) :=
    settles_list (show Probe.rootQuery.isAsync = false from rfl) h.domains (.done rfl)
  have hasked : (ExceptT.run (Probe.rootDomain.ask session.client)).Settles
      (fun _ => .reply 200 reply) horizon lapse (· = .ok (some .domainAdmin)) := by
    refine Dialogue.settles_bind hlisted ?_
    rintro _ rfl
    exact .done rfl
  -- without keys, the first probe of the two has nothing to ask
  have hclassify : session.privilegeTier =
      Classifier.classify session.client [Probe.rootDomain] := rfl
  rw [hclassify, Classifier.classify]
  refine Dialogue.settles_action_bind hasked ?_ ?_
  · rintro _ ⟨⟩
    exact .done rfl
  · rintro _ ⟨⟩

/-- The user is provided without anything being created. -/
theorem settles_ensureUser (h : Lists reply) :
    (ExceptT.run (session.ensureUser "alice" "dept" .normal)).Settles (fun _ => .reply 200 reply)
      horizon lapse (· = .ok ⟨dept, alone, user, pair⟩) := by
  have hdomain : (ExceptT.run (ensureDomain session.client "dept")).Settles
      (fun _ => .reply 200 reply) horizon lapse (· = .ok dept) :=
    settles_list (show (domainQuery "dept").isAsync = false from rfl) h.domains (.done rfl)
  have haccount : (ExceptT.run (ensureAccount session.client "alice" dept .normal)).Settles
      (fun _ => .reply 200 reply) horizon lapse (· = .ok alone) :=
    settles_list (show (accountQuery "alice" dept.id).isAsync = false from rfl) h.accounts
      (.done rfl)
  have huser : (ExceptT.run (findUser session.client alone)).Settles
      (fun _ => .reply 200 reply) horizon lapse (· = .ok user) :=
    settles_list (show (userQuery alone).isAsync = false from rfl) h.users (.done rfl)
  refine Dialogue.settles_action_bind hdomain ?_ (by rintro _ ⟨⟩)
  rintro _ ⟨⟩
  refine Dialogue.settles_action_bind haccount ?_ (by rintro _ ⟨⟩)
  rintro _ ⟨⟩
  refine Dialogue.settles_action_bind huser ?_ (by rintro _ ⟨⟩)
  rintro _ ⟨⟩
  exact .done rfl

end

/-- The listing, read. -/
def body : Json := .obj
  [("account", .arr [.arr [.str "a-1", .str "alice", .num (.whole 0), .str "d-1"]]),
    ("domain", .arr [.arr [.str "d-1", .str "dept"]]),
    ("user", .arr [.arr [.str "u-1", .str "alice", .null, .null, .null, .null, .null, .null, .null,
      .null, .str "AK", .str "SK"]])]

-- the text is read character by character
set_option maxRecDepth 20000 in
theorem parse_text : Json.parse text = some body := by rfl

/-- What is read off a reply depends on its content only. -/
theorem readReply_of_parse {α : Type} {command reply : String} {decode : Json → Json.Decoded α}
    {body inner : Json} (hbody : Json.parse reply = some body)
    (hinner : Envelope.judge command 200 (Envelope.content command body) = .ok inner) :
    readReply command decode (200, reply) = decoded (decode inner) := by
  simp only [readReply, Envelope.decode, hbody, hinner]

theorem lists_text : Lists text where
  domains := (readReply_of_parse parse_text rfl).trans rfl
  accounts := (readReply_of_parse parse_text rfl).trans rfl
  users := (readReply_of_parse parse_text rfl).trans rfl

/-- A world in which the control plane says the same to everything. -/
def world (reply : String) (clock : Instant) (drawn : Nat) : World Unit :=
  ⟨clock, fun _ _ => (⟨.zero, some (200, reply)⟩, ()), (), .up, fun _ => Fin.last 61, drawn, []⟩

theorem agree_world (reply : String) (clock clock' : Instant) (drawn drawn' draws : Nat) :
    World.Agree (fun _ => .reply 200 reply) draws (world reply clock drawn)
      (world reply clock' drawn') :=
  @World.agree_of_answers _ _ (world reply clock drawn) (world reply clock' drawn') draws rfl
    (fun _ _ _ => rfl) fun _ _ => rfl

/-- Begun ten seconds apart and after other letters were drawn, both ways come to the client. -/
theorem exists_client_both_ways :
    World.Agree (fun _ => .reply 200 text) 6 (world text ⟨0⟩ 0) (world text ⟨10000000000⟩ 6) ∧
      (session.privilegeTier.run (world text ⟨0⟩ 0)).1 = some (.ok .domainAdmin) ∧
      PrivilegeTier.domainAdmin.isAdmin = true ∧
      ∃ client,
        ((session.userClient "alice" "dept" .normal).run (world text ⟨0⟩ 0)).1 =
            some (.ok client) ∧
          ((Fixture.setup session "alice" "dept" .normal).run (world text ⟨10000000000⟩ 6)).1 =
            some (.ok ⟨⟨dept, alone, user, pair⟩, client⟩) := by
  have hagree := agree_world text ⟨0⟩ ⟨10000000000⟩ 0 6 6
  have htier : (session.privilegeTier.run (world text ⟨0⟩ 0)).1 = some (.ok .domainAdmin) :=
    (Dialogue.action_run_of_settles (settles_privilegeTier lists_text) hagree.left rfl
      (Instant.le_refl _)).2 not_false
  have hensure : ((session.ensureUser "alice" "dept" .normal).run (world text ⟨10000000000⟩ 6)).1 =
      some (.ok ⟨dept, alone, user, pair⟩) :=
    (Dialogue.action_run_of_settles (settles_ensureUser lists_text) hagree.right rfl
      (Instant.le_refl _)).2 not_false
  obtain ⟨result, hsetup, hclient, -⟩ :=
    @Session.userClient_agrees_with_setup _ _ session "alice" "dept" .normal _ _ _ _ hagree htier
      rfl
  have hfixture := Session.run_setup hensure
  obtain rfl := Option.some.inj (hsetup.symm.trans hfixture)
  exact ⟨hagree, htier, rfl, _, hclient, hfixture⟩

end OneReply

end ControlPlane
