import ControlPlane.Proofs.FaithfulServers
import ControlPlane.Proofs.FlatCalls

/-!
# A small control plane

A control plane that knows of one domain, one account and one user, all of which have yet to be
created. It reads the query of a request, answers in JSON, withholds the user's secret from its
listings, and refuses whatever it does not know. It is faithful (`faithful_server`), and the user
can be provided there (`ensureUser_run`).
-/

namespace ControlPlane.SmallControlPlane

open Connection

/-! ## The server -/

/-- What the control plane has created so far. -/
inductive Stage where
  | empty
  | domain
  | account
  | keys
  deriving DecidableEq

/-- The domain. -/
def dept : Domain := ⟨"d-1", "dept", none, none, none⟩

/-- The user, with an API key if one is listed. -/
def alice (apiKey : Option String) : User :=
  ⟨"u-1", "alice", none, none, none, none, none, none, none, none, apiKey, none⟩

/-- The account of the user. -/
def account (apiKey : Option String) : Account :=
  ⟨"a-1", "alice", .normal, "d-1", none, none, [alice apiKey]⟩

/-- The key pair of the user. -/
def pair : KeyPair := ⟨"AK", "SK"⟩

/-- What is stored. -/
def view : Stage → Store
  | .empty => ⟨[], [], fun _ => none⟩
  | .domain => ⟨[dept], [], fun _ => none⟩
  | .account => ⟨[dept], [account none], fun _ => none⟩
  | .keys => ⟨[dept], [account none], Function.update (fun _ => none) "u-1" (some pair)⟩

/-- A text wrapped in the envelope of a command. -/
def wrapped (command content : String) : String :=
  "\x7b\"" ++ command ++ "response\":" ++ content ++ "\x7d"

/-- The domain in JSON. -/
def deptText : String := "\x7b\"id\":\"d-1\",\"name\":\"dept\"\x7d"

/-- The user in JSON, without the secret. -/
def aliceText (hasKeys : Bool) : String :=
  "\x7b\"id\":\"u-1\",\"username\":\"alice\"" ++
    (if hasKeys then ",\"apikey\":\"AK\"\x7d" else "\x7d")

/-- The account in JSON. -/
def accountText (hasKeys : Bool) : String :=
  "\x7b\"id\":\"a-1\",\"name\":\"alice\",\"accounttype\":0,\"domainid\":\"d-1\",\"user\":[" ++
    aliceText hasKeys ++ "]\x7d"

/-- A listing of one record or none in JSON. -/
def listText (member : String) (found : Bool) (text : String) : String :=
  if found then "\x7b\"" ++ member ++ "\":[" ++ text ++ "]\x7d" else "\x7b\x7d"

/-- A record in JSON, as the only member of another. -/
def recordText (member text : String) : String :=
  "\x7b\"" ++ member ++ "\":" ++ text ++ "\x7d"

/-- The key pair in JSON. -/
def pairText : String := "\x7b\"apikey\":\"AK\",\"secretkey\":\"SK\"\x7d"

/-- What the control plane answers to a command whose fields admit some values only. -/
def answerTo (command : String) (admits : String → String → Bool) (stage : Stage) :
    (Nat × String) × Stage :=
  let refused := ((431, "\x7b\x7d"), stage)
  match command with
  | "listDomains" =>
    let found := stage != .empty && admits "id" "d-1" && admits "name" "dept"
    ((200, wrapped "listdomains" (listText "domain" found deptText)), stage)
  | "listAccounts" =>
    let found := (stage == .account || stage == .keys) && admits "id" "a-1" &&
      admits "name" "alice" && admits "domainid" "d-1"
    ((200, wrapped "listaccounts" (listText "account" found (accountText (stage == .keys)))), stage)
  | "listUsers" =>
    let found := (stage == .account || stage == .keys) && admits "id" "u-1" &&
      admits "username" "alice" && admits "account" "alice" && admits "domainid" "d-1"
    ((200, wrapped "listusers" (listText "user" found (aliceText (stage == .keys)))), stage)
  | "createDomain" =>
    if stage == .empty && admits "name" "dept" then
      ((200, wrapped "createdomain" (recordText "domain" deptText)), .domain)
    else refused
  | "createAccount" =>
    if stage == .domain && admits "username" "alice" && admits "domainid" "d-1" then
      ((200, wrapped "createaccount" (recordText "account" (accountText false))), .account)
    else refused
  | "registerUserKeys" =>
    if stage == .account && admits "id" "u-1" then
      ((200, wrapped "registeruserkeys" (recordText "userkeys" pairText)), .keys)
    else refused
  | "getUserKeys" =>
    if stage == .keys && admits "id" "u-1" then
      ((200, wrapped "getuserkeys" (recordText "userkeys" pairText)), .keys)
    else refused
  | _ => refused

/-- Whether a field of some fields, if there is one of this name, has this value. -/
def admitsIn (fields : List (String × String)) (name value : String) : Bool :=
  fields.all fun field => field.1 != name || value == field.2

/-- The server reads the query, and takes no time. -/
def server : Server Stage := fun url stage =>
  let params := Url.received (url.query.getD [])
  let command := ((params.find? fun param => param.1 == "command").map Prod.snd).getD ""
  let fields := params.filter fun param => !reserved.contains param.1
  let (reply, stage') := answerTo command (admitsIn fields) stage
  (⟨.zero, some reply⟩, stage')

/-- A connection to the server, without keys. -/
def connection : Connection :=
  ⟨"http://127.0.0.1:8080/client/api", .integration, "", "", .ofSeconds 60, .ofSeconds 60,
    .ofSeconds 1⟩

/-- What a reply to a command is decoded to. -/
def readReply {α : Type} (command : String) (decode : Json → Json.Decoded α)
    (reply : Nat × String) : Except ClientError α :=
  match Envelope.decode command reply.1 reply.2 with
  | .error error => .error error
  | .ok body => decoded (decode body)

section

variable {α : Type} {call : Call α} {names : List String}

theorem exists_url (command : Command) :
    ∃ url, Url.parse (connection.urlText command) = .ok url ∧
      url.query =
        some (Url.sentQuery (Signing.written (sentParameters .integration command))) := by
  have hbase : Url.parse ({ host := "127.0.0.1", port := 8080 } : ManagementSettings).endpoint =
      .ok ⟨"http", "127.0.0.1", some 8080, "/client/api".toList, none, none⟩ := rfl
  obtain ⟨url, hurl, -, -, -, hquery⟩ := @Url.parse_append_query _ (query .integration command) _
    (ManagementSettings.isClosed_endpoint { host := "127.0.0.1", port := 8080 }) hbase
    (by simp [ManagementSettings.endpoint_loopback])
  exact ⟨url, hurl, by rw [hquery, toList_query]⟩

/-- The server reads the name and the fields of a flat call. -/
theorem server_of_isFlat (h : IsFlat call names) {url : Url}
    (hquery : url.query =
      some (Url.sentQuery (Signing.written (sentParameters .integration call.toCommand))))
    (stage : Stage) :
    server url stage =
      (⟨.zero, some (answerTo call.name (admitsIn (fieldTexts call)) stage).1⟩,
        (answerTo call.name (admitsIn (fieldTexts call)) stage).2) := by
  have hreceived := received_perm_of_isFlat h
  have hfieldNames : ∀ param ∈ fieldTexts call, param.1 ∉ reserved :=
    fun _ hparam => (plain_of_mem_fieldTexts h hparam).1
  rw [server, hquery, Option.getD_some]
  generalize Url.received (Url.sentQuery
    (Signing.written (sentParameters .integration call.toCommand))) = params at hreceived
  have hcommand : params.find? (fun param => param.1 == "command") =
      some ("command", call.name) := by
    cases hfind : params.find? fun param => param.1 == "command" with
    | none =>
      have hmem : ("command", call.name) ∈ params := hreceived.mem_iff.2 List.mem_cons_self
      exact absurd (List.find?_eq_none.1 hfind _ hmem) (by simp)
    | some param =>
      have hname : param.1 = "command" := by simpa using List.find?_some hfind
      rcases List.mem_cons.1 (hreceived.mem_iff.1 (List.mem_of_find?_eq_some hfind)) with rfl | hmem
      · rfl
      · rcases List.mem_cons.1 hmem with rfl | hmem
        · exact absurd hname (by simp)
        · exact absurd (show param.1 ∈ reserved by rw [hname]; decide) (hfieldNames param hmem)
  have hfields :
      (params.filter fun param => !reserved.contains param.1).Perm (fieldTexts call) := by
    have hown : reserved.contains "command" = true ∧ reserved.contains "response" = true := by
      decide
    refine (hreceived.filter _).trans (List.Perm.of_eq ?_)
    simp only [List.filter_cons, hown]
    refine List.filter_eq_self.2 fun param hparam => ?_
    simpa using hfieldNames param hparam
  have hadmits : admitsIn (params.filter fun param => !reserved.contains param.1) =
      admitsIn (fieldTexts call) := by
    funext name value
    exact hfields.all_eq
  simp only [hcommand, hadmits, Option.map_some, Option.getD_some]

/-- What a flat call comes to at the server. -/
theorem outcome_of_isFlat (h : IsFlat call names) (stage : Stage) :
    connection.outcome server call stage =
      (readReply call.name call.decode (answerTo call.name (admitsIn (fieldTexts call)) stage).1,
        (answerTo call.name (admitsIn (fieldTexts call)) stage).2) := by
  obtain ⟨url, hurl, hquery⟩ := exists_url call.toCommand
  have hserver := server_of_isFlat h hquery stage
  rw [outcome, hurl]
  simp only [Server.handle, hserver]
  rw [answer, reply, hurl]
  rfl

end

/-! ## How its answers are read -/

/-- The API key that is listed. -/
def apiKey? (hasKeys : Bool) : Option String :=
  if hasKeys then some "AK" else none

/-- What a refused command comes to. -/
def refusal (command : String) : ClientError :=
  .ofCode command 431 (Json.obj []).compact

section

-- the answers are read character by character
set_option maxRecDepth 20000

theorem read_refused {α : Type} (command : String) (decode : Json → Json.Decoded α) :
    readReply command decode (431, "\x7b\x7d") = .error (refusal command) := by
  have hparse : Json.parse "\x7b\x7d" = some (.obj []) := rfl
  simp [readReply, Envelope.decode, hparse, Envelope.content, Envelope.judge,
    Envelope.errorCode?, Envelope.isSuccess, Json.get?, refusal]

theorem read_domains (found : Bool) :
    readReply "listDomains" Listing.domains
        (200, wrapped "listdomains" (listText "domain" found deptText)) =
      .ok ⟨none, if found then [dept] else []⟩ := by
  cases found with
  | false => rfl
  | true => rfl

theorem read_accounts (found hasKeys : Bool) :
    readReply "listAccounts" Listing.accounts
        (200, wrapped "listaccounts" (listText "account" found (accountText hasKeys))) =
      .ok ⟨none, if found then [account (apiKey? hasKeys)] else []⟩ := by
  cases found with
  | false => cases hasKeys <;> rfl
  | true => cases hasKeys <;> rfl

theorem read_users (found hasKeys : Bool) :
    readReply "listUsers" Listing.users
        (200, wrapped "listusers" (listText "user" found (aliceText hasKeys))) =
      .ok ⟨none, if found then [alice (apiKey? hasKeys)] else []⟩ := by
  cases found with
  | false => cases hasKeys <;> rfl
  | true => cases hasKeys <;> rfl

theorem read_createdDomain :
    readReply "createDomain" Domain.ofCreated
        (200, wrapped "createdomain" (recordText "domain" deptText)) = .ok dept := by
  rfl

theorem read_createdAccount :
    readReply "createAccount" Account.ofCreated
        (200, wrapped "createaccount" (recordText "account" (accountText false))) =
      .ok (account none) := by
  rfl

theorem read_registeredKeys :
    readReply "registerUserKeys" KeyPair.ofUserKeys
        (200, wrapped "registeruserkeys" (recordText "userkeys" pairText)) = .ok pair := by
  rfl

theorem read_storedKeys :
    readReply "getUserKeys" KeyPair.ofUserKeys
        (200, wrapped "getuserkeys" (recordText "userkeys" pairText)) = .ok pair := by
  rfl

end

/-! ## What it admits -/

theorem admitsIn_append (fields more : List (String × String)) (name value : String) :
    admitsIn (fields ++ more) name value =
      (admitsIn fields name value && admitsIn more name value) :=
  List.all_append

theorem admitsIn_given (name other value : String) (given : Option String) :
    admitsIn (textsOf (Call.given name given)) other value =
      (name != other || given.all (value == ·)) := by
  cases given with
  | none => simp [admitsIn, textsOf, Call.given]
  | some text => simp [admitsIn, textsOf, Call.given, Command.scalar?]

theorem admitsIn_givenFlag {name other : String} (h : name ≠ other) (value : String)
    (given : Option Bool) :
    admitsIn (textsOf (Call.givenFlag name given)) other value = true := by
  cases given with
  | none => rfl
  | some flag => simp [admitsIn, textsOf, Call.givenFlag, Command.scalar?, h]

/-! ## Listings -/

theorem outcome_listDomains (filter : DomainFilter) (stage : Stage) :
    connection.outcome server filter.call stage =
      (.ok ⟨none, (view stage).domains.filter filter.admits⟩, stage) := by
  have hadmits : (admitsIn (fieldTexts filter.call) "id" "d-1" &&
      admitsIn (fieldTexts filter.call) "name" "dept") = filter.admits dept := by
    simp [fieldTexts, DomainFilter.call, textsOf_append, admitsIn_append, admitsIn_given,
      admitsIn_givenFlag, DomainFilter.admits, dept]
  rw [outcome_of_isFlat (isFlat_listDomains filter)]
  simp only [answerTo, show filter.call.name = "listDomains" from rfl,
    show filter.call.decode = Listing.domains from rfl, Bool.and_assoc, hadmits, read_domains]
  cases stage with
  | empty => rfl
  | domain | account | keys => cases hfound : filter.admits dept <;> simp [view, hfound]

theorem outcome_listAccounts (filter : AccountFilter) (stage : Stage) :
    connection.outcome server filter.call stage =
      (.ok ⟨none, ((view stage).accounts.filter filter.admits).map fun _ =>
        account (apiKey? (stage == .keys))⟩, stage) := by
  have hadmits : (admitsIn (fieldTexts filter.call) "id" "a-1" &&
      (admitsIn (fieldTexts filter.call) "name" "alice" &&
        admitsIn (fieldTexts filter.call) "domainid" "d-1")) = filter.admits (account none) := by
    simp [fieldTexts, AccountFilter.call, textsOf_append, admitsIn_append, admitsIn_given,
      admitsIn_givenFlag, AccountFilter.admits, account, Bool.and_assoc]
  rw [outcome_of_isFlat (isFlat_listAccounts filter)]
  simp only [answerTo, show filter.call.name = "listAccounts" from rfl,
    show filter.call.decode = Listing.accounts from rfl, Bool.and_assoc, hadmits, read_accounts]
  cases stage with
  | empty | domain => rfl
  | account | keys =>
    cases hfound : filter.admits (SmallControlPlane.account none) <;> simp [view, hfound]

theorem outcome_listUsers (filter : UserFilter) (stage : Stage) :
    connection.outcome server filter.call stage =
      (.ok ⟨none, ((view stage).users.filter filter.admits).map fun _ =>
        alice (apiKey? (stage == .keys))⟩, stage) := by
  have hadmits : (admitsIn (fieldTexts filter.call) "id" "u-1" &&
      (admitsIn (fieldTexts filter.call) "username" "alice" &&
        (admitsIn (fieldTexts filter.call) "account" "alice" &&
          admitsIn (fieldTexts filter.call) "domainid" "d-1"))) =
        filter.admits (account none, alice none) := by
    simp [fieldTexts, UserFilter.call, textsOf_append, admitsIn_append, admitsIn_given,
      admitsIn_givenFlag, UserFilter.admits, account, alice, Bool.and_assoc]
  have husers : (view .account).users = [(account none, alice none)] ∧
      (view .keys).users = [(account none, alice none)] := ⟨rfl, rfl⟩
  rw [outcome_of_isFlat (isFlat_listUsers filter)]
  simp only [answerTo, show filter.call.name = "listUsers" from rfl,
    show filter.call.decode = Listing.users from rfl, Bool.and_assoc, hadmits, read_users]
  cases stage with
  | empty | domain => rfl
  | account | keys =>
    cases hfound : filter.admits (SmallControlPlane.account none, alice none) <;>
      simp [husers, hfound]

/-! ## Creations and keys -/

theorem outcome_createDomain (new : NewDomain) (stage : Stage) :
    connection.outcome server new.call stage =
      if stage = .empty ∧ new.name = "dept" then (.ok dept, .domain)
      else (.error (refusal "createDomain"), stage) := by
  have hadmits : admitsIn (fieldTexts new.call) "name" "dept" = (new.name == "dept") := by
    have hname : fieldTexts new.call =
        ("name", new.name) :: textsOf (Call.given "parentdomainid" new.parentId) := rfl
    rw [hname, admitsIn, List.all_cons, ← admitsIn, admitsIn_given, Bool.beq_comm]
    simp
  rw [outcome_of_isFlat (isFlat_createDomain new)]
  simp only [answerTo, show new.call.name = "createDomain" from rfl,
    show new.call.decode = Domain.ofCreated from rfl, hadmits, Bool.and_eq_true, beq_iff_eq]
  split
  · rw [read_createdDomain]
  · rw [read_refused]

theorem outcome_createAccount (new : NewAccount) (stage : Stage) :
    connection.outcome server new.call stage =
      if (stage = .domain ∧ new.username = "alice") ∧ new.domainId = "d-1" then
        (.ok (account none), .account)
      else (.error (refusal "createAccount"), stage) := by
  have htype : (Command.scalar? new.accountType.toJson).isSome = true := by
    cases new.accountType <;> rfl
  obtain ⟨accountType, haccountType⟩ := Option.isSome_iff_exists.1 htype
  have hfields : fieldTexts new.call =
      [("accounttype", accountType), ("domainid", new.domainId), ("email", new.email),
        ("firstname", new.firstName), ("lastname", new.lastName), ("password", new.password),
        ("username", new.username)] ++ textsOf (Call.given "account" new.account) := by
    rw [fieldTexts, NewAccount.call, textsOf_append, textsOf, List.filterMap_cons, haccountType]
    rfl
  have hadmits : admitsIn (fieldTexts new.call) "username" "alice" = (new.username == "alice") ∧
      admitsIn (fieldTexts new.call) "domainid" "d-1" = (new.domainId == "d-1") := by
    rw [hfields, admitsIn_append, admitsIn_append, admitsIn_given, admitsIn_given, Bool.beq_comm,
      @Bool.beq_comm _ _ _ new.domainId]
    exact ⟨by simp [admitsIn], by simp [admitsIn]⟩
  rw [outcome_of_isFlat (isFlat_createAccount new)]
  simp only [answerTo, show new.call.name = "createAccount" from rfl,
    show new.call.decode = Account.ofCreated from rfl, hadmits, Bool.and_eq_true, beq_iff_eq]
  split
  · rw [read_createdAccount]
  · rw [read_refused]

/-- A call that names a user, and nothing else. -/
theorem isFlat_of_id {α : Type} {call : Call α} {userId : String}
    (h : call.fields = [("id", .str userId)]) :
    IsFlat call ["id"] ∧ admitsIn (fieldTexts call) "id" "u-1" = (userId == "u-1") := by
  refine ⟨isFlat_of_text h (by decide), ?_⟩
  rw [fieldTexts, h, Bool.beq_comm]
  simp [admitsIn, textsOf, Command.scalar?]

theorem outcome_registerUserKeys (userId : String) (stage : Stage) :
    connection.outcome server (.registerUserKeys userId) stage =
      if stage = .account ∧ userId = "u-1" then (.ok pair, .keys)
      else (.error (refusal "registerUserKeys"), stage) := by
  obtain ⟨hflat, hadmits⟩ := isFlat_of_id (show (Call.registerUserKeys userId).fields = _ from rfl)
  rw [outcome_of_isFlat hflat]
  simp only [answerTo, show (Call.registerUserKeys userId).name = "registerUserKeys" from rfl,
    show (Call.registerUserKeys userId).decode = KeyPair.ofUserKeys from rfl, hadmits,
    Bool.and_eq_true, beq_iff_eq]
  split
  · rw [read_registeredKeys]
  · rw [read_refused]

theorem outcome_getUserKeys (userId : String) (stage : Stage) :
    connection.outcome server (.getUserKeys userId) stage =
      if stage = .keys ∧ userId = "u-1" then (.ok pair, .keys)
      else (.error (refusal "getUserKeys"), stage) := by
  obtain ⟨hflat, hadmits⟩ := isFlat_of_id (show (Call.getUserKeys userId).fields = _ from rfl)
  rw [outcome_of_isFlat hflat]
  simp only [answerTo, show (Call.getUserKeys userId).name = "getUserKeys" from rfl,
    show (Call.getUserKeys userId).decode = KeyPair.ofUserKeys from rfl, hadmits,
    Bool.and_eq_true, beq_iff_eq]
  split
  · rw [read_storedKeys]
  · rw [read_refused]

/-- What is listed is what is stored, without the secret. -/
theorem shows_alice (stage : Stage) (h : stage = .account ∨ stage = .keys) :
    User.Shows (view stage).keys (alice none) (alice (apiKey? (stage == .keys))) := by
  rcases h with rfl | rfl
  · exact ⟨true, rfl⟩
  · exact ⟨true, by simp [view, alice, pair, apiKey?]⟩

theorem shows_account (stage : Stage) (h : stage = .account ∨ stage = .keys) :
    Account.Shows (view stage).keys (account none) (account (apiKey? (stage == .keys))) :=
  ⟨_, .cons (shows_alice stage h) .nil, rfl⟩

theorem faithful_server : Faithful connection server view where
  listDomains filter stage := ⟨none, stage, outcome_listDomains filter stage, rfl⟩
  listAccounts filter stage := by
    refine ⟨_, stage, outcome_listAccounts filter stage, rfl, ?_⟩
    rw [List.forall₂_map_right_iff, List.forall₂_same]
    intro stored hstored
    have hmem := List.mem_of_mem_filter hstored
    cases stage with
    | empty | domain => exact absurd hmem List.not_mem_nil
    | account | keys =>
      obtain rfl := List.mem_singleton.1 hmem
      exact shows_account _ (by simp)
  listUsers filter stage := by
    refine ⟨_, stage, outcome_listUsers filter stage, rfl, ?_⟩
    rw [List.forall₂_map_right_iff, List.forall₂_map_left_iff, List.forall₂_same]
    intro entry hentry
    have hmem := List.mem_of_mem_filter hentry
    cases stage with
    | empty | domain => exact absurd hmem List.not_mem_nil
    | account | keys =>
      obtain rfl := List.mem_singleton.1 (show entry ∈ [(account none, alice none)] from hmem)
      exact shows_alice _ (by simp)
  createDomain {new stage stage' domain} h := by
    rw [outcome_createDomain] at h
    split at h
    · obtain ⟨rfl, hname⟩ := ‹stage = .empty ∧ new.name = "dept"›
      cases h
      exact ⟨hname.symm, rfl⟩
    · cases h
  createAccount {new stage stage' shown} _ h := by
    rw [outcome_createAccount] at h
    split at h
    · obtain ⟨⟨rfl, husername⟩, hdomain⟩ :=
        ‹(stage = .domain ∧ new.username = "alice") ∧ new.domainId = "d-1"›
      cases h
      exact ⟨account none, alice none, ⟨_, .cons ⟨true, rfl⟩ .nil, rfl⟩, husername.symm,
        hdomain.symm, rfl, husername.symm, rfl, rfl⟩
    · cases h
  registerUserKeys {userId stage stage' registered} h := by
    rw [outcome_registerUserKeys] at h
    split at h
    · obtain ⟨rfl, rfl⟩ := ‹stage = .account ∧ userId = "u-1"›
      cases h
      rfl
    · cases h
  getUserKeys {userId stage found} h := by
    cases stage with
    | empty | domain | account => exact absurd h (by simp [view])
    | keys =>
      by_cases hid : userId = "u-1"
      · subst hid
        obtain rfl : pair = found := by simpa [view] using h
        exact ⟨.keys, outcome_getUserKeys _ _, rfl⟩
      · exact absurd h (by simp [view, Function.update_of_ne hid])

/-! ## Providing the user -/

/-- A client of the control plane. -/
def client : Client := { connection }

/-- A world with the control plane, before anything was created. -/
def world : World Stage := ⟨⟨0⟩, server, .empty, .up, fun _ => 0, 0, []⟩

theorem serves_world : world.Serves server := ⟨rfl, rfl⟩

open Provisioning in
/-- Providing the user creates everything. -/
theorem ensureUser_run (accountType : AccountType) :
    ∃ world', (ensureUser client "alice" "dept" accountType).run world =
        (some (.ok ⟨dept, account none, alice none, pair⟩), world') ∧ world'.state = .keys := by
  obtain ⟨attempts, result, world', hconducts, hprovides⟩ :=
    keepsTo_ensureUser client "alice" "dept" accountType Stage world
  obtain ⟨course, hcourse, rfl, rfl⟩ := exists_course hprovides
  obtain ⟨first, second, third, hfirst, hsecond, hthird, hfourth⟩ :=
    exists_states_of_attempted (attempted_of_conducts hconducts serves_world).1
  obtain ⟨hdomainStep, haccountStep, huserStep, hkeysStep⟩ := hcourse
  have hdomain : course.domain = .ok dept ∧ first = .domain := by
    rcases findsOrCreates_served (outcome_listDomains _ _) hdomainStep hfirst with
      ⟨record, hrecord, -⟩ | ⟨-, creation, rfl, -, hcreated⟩
    · exact absurd hrecord (by simp [world, view])
    · exact Prod.mk.inj (hcreated.symm.trans (outcome_createDomain _ _))
  obtain ⟨hdomain, rfl⟩ := hdomain
  rw [hdomain] at haccountStep
  have haccount : course.account = .ok (account none) ∧ second = .account := by
    rcases findsOrCreates_served (outcome_listAccounts _ _) haccountStep hsecond with
      ⟨record, hrecord, -⟩ | ⟨-, creation, ⟨letters, -, rfl⟩, -, hcreated⟩
    · exact absurd hrecord (by simp [view])
    · exact Prod.mk.inj (hcreated.symm.trans (outcome_createAccount _ _))
  obtain ⟨haccount, rfl⟩ := haccount
  rw [haccount] at huserStep
  have huser : course.user = .ok (alice none) ∧ third = .account := by
    obtain ⟨delivery, hattempt, hcases⟩ := userStep_cases huserStep
    rw [hattempt] at hthird
    have houtcome := (outcome_listUsers _ _).symm.trans (outcome_of_attempted hthird)
    obtain ⟨hanswer, hstate⟩ := Prod.mk.inj houtcome
    refine ⟨?_, hstate.symm⟩
    rcases hcases with ⟨error, herror, -⟩ | ⟨listing, hlisting, hitems, -⟩ |
      ⟨listing, found, rest, hlisting, hitems, huser⟩
    · exact absurd (hanswer.trans herror) (by simp)
    · obtain rfl := Except.ok.inj (hanswer.trans hlisting)
      cases hitems
    · obtain rfl := Except.ok.inj (hanswer.trans hlisting)
      cases hitems
      exact huser
  obtain ⟨huser, rfl⟩ := huser
  rw [huser] at hkeysStep
  have hkeys : course.keys = .ok pair ∧ world'.state = .keys := by
    rcases @keysStep_cases _ (alice none) _ _ hkeysStep with ⟨listed, hlisted, -⟩ |
      ⟨apiKey, delivery, hsome, -⟩ | ⟨delivery, -, hattempt, hanswer⟩
    · cases hlisted
    · cases hsome
    · rw [hattempt] at hfourth
      have houtcome := (outcome_registerUserKeys _ _).symm.trans (outcome_of_attempted hfourth)
      obtain ⟨hpair, hstate⟩ := Prod.mk.inj houtcome
      exact ⟨hanswer.trans hpair.symm, hstate.symm⟩
  refine ⟨world', ?_, hkeys.2⟩
  have hresult : course.result = .ok ⟨dept, account none, alice none, pair⟩ := by
    rw [Course.result, hdomain, haccount, huser, hkeys.1]
    rfl
  rw [← hresult]
  exact hconducts.run

end ControlPlane.SmallControlPlane
