import ControlPlane.Proofs.ParallelRuns
import ControlPlane.Provisioning

/-!
# Two clients side by side

Two clients may sign with other secrets, or be told other secrets by their servers. Records that
differ in secrets only agree (`Account.Agree`, `UserCredentials.Agree`). If the calls of two clients
come to records that agree, then so does everything that is made of calls: what a probe says
(`Probe.alike_ask`), how credentials are classified (`Classifier.alike_classify`), and which user is
provided (`Provisioning.alike_ensureUser`). None of these looks at a secret; whether there is one is
all that matters.
-/

namespace ControlPlane

variable {secret : String → String → Prop}

/-! ## Records that agree -/

/-- The same key pair up to the secret. -/
structure KeyPair.Agree (secret : String → String → Prop) (keys keys' : KeyPair) : Prop where
  apiKey : keys.apiKey = keys'.apiKey
  secretKey : secret keys.secretKey keys'.secretKey

/-- The same user up to the secret. -/
structure User.Agree (secret : String → String → Prop) (user user' : User) : Prop where
  others : { user with secretKey := user'.secretKey } = user'
  secretKey : Option.Rel secret user.secretKey user'.secretKey

/-- The same account up to the secrets of its users. -/
structure Account.Agree (secret : String → String → Prop) (account account' : Account) : Prop where
  others : { account with users := account'.users } = account'
  users : List.Forall₂ (User.Agree secret) account.users account'.users

/-- The same credentials up to secrets. -/
structure UserCredentials.Agree (secret : String → String → Prop)
    (credentials credentials' : UserCredentials) : Prop where
  domain : credentials.domain = credentials'.domain
  account : credentials.account.Agree secret credentials'.account
  user : credentials.user.Agree secret credentials'.user
  keys : credentials.keys.Agree secret credentials'.keys

/-- Lists of records that agree one by one. -/
structure Listing.Agree {α : Type} (V : α → α → Prop) (listing listing' : Listing α) : Prop where
  count : listing.count = listing'.count
  items : List.Forall₂ V listing.items listing'.items

namespace User

variable {user user' : User} (h : user.Agree secret user')
include h

theorem Agree.id : user.id = user'.id := by rw [← h.others]

theorem Agree.username : user.username = user'.username := by rw [← h.others]

theorem Agree.apiKey : user.apiKey = user'.apiKey := by rw [← h.others]

/-- Users that agree have key pairs that agree, if they have any. -/
theorem Agree.keyPair? : Option.Rel (KeyPair.Agree secret) user.keyPair? user'.keyPair? := by
  have hsecret := h.secretKey
  rw [User.keyPair?, User.keyPair?, h.apiKey]
  cases user'.apiKey with
  | none => exact .none
  | some apiKey =>
    generalize user.secretKey = known at hsecret
    generalize user'.secretKey = known' at hsecret
    cases hsecret with
    | none => exact .none
    | some hsecret => exact .some ⟨rfl, hsecret⟩

end User

namespace Account

variable {account account' : Account} (h : account.Agree secret account')
include h

theorem Agree.id : account.id = account'.id := by rw [← h.others]

theorem Agree.name : account.name = account'.name := by rw [← h.others]

theorem Agree.domainId : account.domainId = account'.domainId := by rw [← h.others]

theorem Agree.accountType : account.accountType = account'.accountType := by
  rw [← h.others]

end Account

/-! ## Records that are the same -/

section Same

variable (hsame : ∀ s, secret s s)
include hsame

theorem KeyPair.agree_self (keys : KeyPair) : keys.Agree secret keys := ⟨rfl, hsame _⟩

theorem User.agree_self (user : User) : user.Agree secret user := by
  refine ⟨rfl, ?_⟩
  cases user.secretKey with
  | none => exact .none
  | some secretKey => exact .some (hsame secretKey)

theorem Account.agree_self (account : Account) : account.Agree secret account :=
  ⟨rfl, List.forall₂_same.2 fun user _ => User.agree_self hsame user⟩

end Same

theorem User.eq_of_agree {user user' : User} (h : user.Agree Eq user') : user = user' := by
  have hsecret : user.secretKey = user'.secretKey := by
    have hrel := h.secretKey
    generalize user.secretKey = known at hrel
    generalize user'.secretKey = known' at hrel
    cases hrel with
    | none => rfl
    | some hsecret => rw [hsecret]
  exact (congrArg (fun secretKey => { user with secretKey }) hsecret).trans h.others

theorem Account.eq_of_agree {account account' : Account} (h : account.Agree Eq account') :
    account = account' := by
  have husers : account.users = account'.users :=
    List.forall₂_eq_eq_eq ▸ h.users.imp fun _ _ => User.eq_of_agree
  exact (congrArg (fun users => { account with users }) husers).trans h.others

theorem KeyPair.eq_of_agree {keys keys' : KeyPair} (h : keys.Agree Eq keys') : keys = keys' := by
  cases keys
  cases keys'
  exact congrArg₂ KeyPair.mk h.apiKey h.secretKey

/-- Credentials that agree are the same, if no secrets tell them apart. -/
theorem UserCredentials.eq_of_agree {credentials credentials' : UserCredentials}
    (h : credentials.Agree Eq credentials') : credentials = credentials' := by
  cases credentials
  cases credentials'
  rw [UserCredentials.mk.injEq]
  exact ⟨h.domain, Account.eq_of_agree h.account, User.eq_of_agree h.user,
    KeyPair.eq_of_agree h.keys⟩

theorem Listing.eq_of_agree {α : Type} {listing listing' : Listing α}
    (h : listing.Agree Eq listing') : listing = listing' := by
  cases listing
  cases listing'
  exact congrArg₂ Listing.mk h.count (List.forall₂_eq_eq_eq ▸ h.items)

/-! ## Owners of keys -/

namespace Probe

theorem any_users_congr {users users' : List User}
    (h : List.Forall₂ (User.Agree secret) users users') (apiKey : String) :
    (users.any fun user => user.apiKey == some apiKey) =
      users'.any fun user => user.apiKey == some apiKey := by
  induction h with
  | nil => rfl
  | cons huser _ ih => rw [List.any_cons, List.any_cons, huser.apiKey, ih]

/-- Whose account it is does not depend on secrets. -/
theorem ownTier?_congr {accounts accounts' : List Account}
    (h : List.Forall₂ (Account.Agree secret) accounts accounts') (apiKey : String) :
    ownTier? apiKey accounts = ownTier? apiKey accounts' := by
  induction h with
  | nil => rfl
  | @cons account account' _ _ haccount _ ih =>
    have howns : owns apiKey account = owns apiKey account' := any_users_congr haccount.users apiKey
    rw [ownTier?, ownTier?] at ih ⊢
    rw [List.find?_cons, List.find?_cons, howns]
    cases owns apiKey account' with
    | true => exact congrArg (fun kind : AccountType => some kind.tier) haccount.accountType
    | false => exact ih

end Probe

/-! ## Calls of two clients -/

/-- Two clients that call alike: with records that agree up to secrets, or with errors in a relation
that keeps refusals apart from all others. -/
structure Client.Alike (like : Likeness) (E : ClientError → ClientError → Prop)
    (secret : String → String → Prop) (client client' : Client) : Prop where
  same : ∀ error, E error error
  refused : ∀ error error', E error error' →
    error.isAuthorizationFailure = error'.isAuthorizationFailure
  apiKey? : client.connection.apiKey? = client'.connection.apiKey?
  domains : ∀ filter : DomainFilter,
    Action.Alike like E Eq (client.execute filter.call) (client'.execute filter.call)
  newDomain : ∀ domain : NewDomain,
    Action.Alike like E Eq (client.execute domain.call) (client'.execute domain.call)
  accounts : ∀ filter : AccountFilter, Action.Alike like E (Listing.Agree (Account.Agree secret))
    (client.execute filter.call) (client'.execute filter.call)
  newAccount : ∀ account : NewAccount, Action.Alike like E (Account.Agree secret)
    (client.execute account.call) (client'.execute account.call)
  users : ∀ filter : UserFilter, Action.Alike like E (Listing.Agree (User.Agree secret))
    (client.execute filter.call) (client'.execute filter.call)
  newKeys : ∀ userId, Action.Alike like E (KeyPair.Agree secret)
    (client.execute (Call.registerUserKeys userId)) (client'.execute (Call.registerUserKeys userId))
  keys : ∀ userId, Action.Alike like E (KeyPair.Agree secret)
    (client.execute (Call.getUserKeys userId)) (client'.execute (Call.getUserKeys userId))

section Calls

variable {like : Likeness} {E : ClientError → ClientError → Prop} {client client' : Client}
  (h : client.Alike like E secret client')
include h

namespace Client

theorem Alike.listDomains (filter : DomainFilter) :
    Action.Alike like E Eq (client.listDomains filter) (client'.listDomains filter) :=
  (h.domains filter).bind fun _ _ hlisting => Action.alike_pure (congrArg Listing.items hlisting)

theorem Alike.listAccounts (filter : AccountFilter) :
    Action.Alike like E (List.Forall₂ (Account.Agree secret)) (client.listAccounts filter)
      (client'.listAccounts filter) :=
  (h.accounts filter).bind fun _ _ hlisting => Action.alike_pure hlisting.items

theorem Alike.listUsers (filter : UserFilter) :
    Action.Alike like E (List.Forall₂ (User.Agree secret)) (client.listUsers filter)
      (client'.listUsers filter) :=
  (h.users filter).bind fun _ _ hlisting => Action.alike_pure hlisting.items

end Client

/-! ## Classification -/

namespace Probe

/-- What stands for a refusal stands for it in both runs. -/
theorem alike_orIfRefused {α β : Type} {V : α → β → Prop} {action : Action α} {action' : Action β}
    (haction : Action.Alike like E V action action') {value : α} {value' : β}
    (hvalue : V value value') :
    Action.Alike like E V (orIfRefused action value) (orIfRefused action' value') := by
  refine Dialogue.Alike.bind haction fun result result' hresult => ?_
  cases hresult with
  | ok hok => exact .done (.ok hok)
  | @error error error' herror =>
    -- the errors may differ, but not in whether they are refusals
    have hrefused := h.refused _ _ herror
    cases hcase : error.isAuthorizationFailure with
    | true =>
      simp only [hcase, ← hrefused, if_true]
      exact Action.alike_pure hvalue
    | false =>
      simp only [hcase, ← hrefused]
      exact Action.alike_throw herror

theorem alike_ask (probe : Probe) :
    Action.Alike like E Eq (probe.ask client) (probe.ask client') := by
  cases probe with
  | accountType =>
    simp only [ask, h.apiKey?]
    cases client'.connection.apiKey? with
    | none => exact Action.alike_pure rfl
    | some apiKey =>
      have haccounts := (h.listAccounts {}).bind fun accounts accounts' haccounts =>
        Action.alike_pure (ownTier?_congr haccounts apiKey)
      exact alike_orIfRefused h haccounts rfl
  | rootDomain =>
    refine alike_orIfRefused h ((h.listDomains _).bind fun domains domains' hdomains => ?_) rfl
    exact Action.alike_pure (congrArg (some ∘ tierOfDomains) hdomains)

end Probe

/-- Credentials are classified alike, whatever their secrets. -/
theorem Classifier.alike_classify (classifier : Classifier) :
    Action.Alike like E Eq (classifier.classify client) (classifier.classify client') := by
  induction classifier with
  | nil => exact Action.alike_throw (h.same _)
  | cons probe rest ih =>
    refine (Probe.alike_ask h probe).bind fun tier tier' htier => ?_
    subst htier
    cases tier with
    | some tier => exact Action.alike_pure rfl
    | none => exact ih

/-! ## Providing users -/

namespace Provisioning

theorem alike_ensureDomain (name : String) :
    Action.Alike like E Eq (ensureDomain client name) (ensureDomain client' name) := by
  refine (h.listDomains _).bind fun domains domains' hdomains => ?_
  subst hdomains
  cases domains.find? fun domain => domain.name == name with
  | some domain => exact Action.alike_pure rfl
  | none => exact h.newDomain _

omit h in
/-- The account of a name is found in the same place, whatever the secrets. -/
theorem rel_find? {accounts accounts' : List Account}
    (haccounts : List.Forall₂ (Account.Agree secret) accounts accounts') (name : String) :
    Option.Rel (Account.Agree secret) (accounts.find? fun account => account.name == name)
      (accounts'.find? fun account => account.name == name) := by
  induction haccounts with
  | nil => exact .none
  | @cons account account' _ _ haccount _ ih =>
    rw [List.find?_cons, List.find?_cons, haccount.name]
    cases account'.name == name with
    | true => exact .some haccount
    | false => exact ih

theorem alike_ensureAccount (name : String) (domain : Domain) (accountType : AccountType) :
    Action.Alike like E (Account.Agree secret) (ensureAccount client name domain accountType)
      (ensureAccount client' name domain accountType) := by
  refine (h.listAccounts _).bind fun accounts accounts' haccounts => ?_
  have hfound := rel_find? haccounts name
  generalize (accounts.find? fun account => account.name == name) = found at hfound
  generalize (accounts'.find? fun account => account.name == name) = found' at hfound
  cases hfound with
  | some haccount => exact Action.alike_pure haccount
  | none =>
    refine (Action.alike_ofDialogue (Dialogue.alike_letters like 6)).bind ?_
    rintro random - rfl
    exact h.newAccount _

theorem alike_findUser {account account' : Account} (haccount : account.Agree secret account') :
    Action.Alike like E (User.Agree secret) (findUser client account)
      (findUser client' account') := by
  simp only [findUser, noUser, haccount.name, haccount.domainId]
  refine (h.listUsers _).bind fun users users' husers => ?_
  cases husers with
  | nil => exact Action.alike_throw (h.same _)
  | cons huser _ => exact Action.alike_pure huser

theorem alike_ensureKeys {user user' : User} (huser : user.Agree secret user') :
    Action.Alike like E (KeyPair.Agree secret) (ensureKeys client user)
      (ensureKeys client' user') := by
  have hkeys := huser.keyPair?
  simp only [ensureKeys, huser.apiKey, huser.id]
  generalize user.keyPair? = known at hkeys
  generalize user'.keyPair? = known' at hkeys
  cases hkeys with
  | some hkeys => exact Action.alike_pure hkeys
  | none =>
    simp only
    split
    · exact h.keys _
    · exact h.newKeys _

/-- Users are provided alike, with keys that agree up to their secrets. -/
theorem alike_ensureUser (accountName domainName : String) (accountType : AccountType) :
    Action.Alike like E (UserCredentials.Agree secret)
      (ensureUser client accountName domainName accountType)
      (ensureUser client' accountName domainName accountType) := by
  refine (alike_ensureDomain h domainName).bind ?_
  rintro domain - rfl
  refine (alike_ensureAccount h accountName domain accountType).bind
    fun account account' haccount => ?_
  refine (alike_findUser h haccount).bind fun user user' huser => ?_
  refine (alike_ensureKeys h huser).bind fun keys keys' hkeys => ?_
  exact Action.alike_pure ⟨rfl, haccount, huser, hkeys⟩

end Provisioning

end Calls

/-! ## Connections that send alike -/

namespace Connection

variable {like : Likeness} {E : ClientError → ClientError → Prop}
  {connection connection' : Connection}

/-- Two connections that send alike, and come to the same bodies. -/
structure SendsAlike (like : Likeness) (E : ClientError → ClientError → Prop)
    (connection connection' : Connection) : Prop where
  same : ∀ error, E error error
  send : ∀ command, Action.Alike like E Eq (connection.send command) (connection'.send command)
  asyncTimeout : connection.asyncTimeout = connection'.asyncTimeout
  pollInterval : connection.pollInterval = connection'.pollInterval

variable (h : connection.SendsAlike like E connection')
include h

theorem SendsAlike.ofExcept {α : Type} (result : Except ClientError α) :
    Action.Alike like E Eq (Action.ofExcept result) (Action.ofExcept result) := by
  cases result with
  | ok a => exact Action.alike_ofExcept (.ok rfl)
  | error error => exact Action.alike_ofExcept (.error (h.same error))

theorem alike_queryJob (jobId : String) :
    Action.Alike like E Eq (connection.queryJob jobId) (connection'.queryJob jobId) := by
  refine (h.send _).bind ?_
  rintro body - rfl
  exact h.ofExcept _

theorem alike_pollUntil (command jobId : String) (deadline : Instant) (limit : Nat) :
    Action.Alike like E Eq (connection.pollUntil command jobId deadline limit)
      (connection'.pollUntil command jobId deadline limit) := by
  have hoverdue : connection.jobOverdue command jobId = connection'.jobOverdue command jobId := by
    rw [jobOverdue, jobOverdue, h.asyncTimeout]
  induction limit with
  | zero =>
    rw [pollUntil, pollUntil, hoverdue]
    exact Action.alike_throw (h.same _)
  | succ limit ih =>
    refine (alike_queryJob h jobId).bind ?_
    rintro job - rfl
    cases job.status with
    | succeeded => exact Action.alike_pure rfl
    | failed => exact Action.alike_throw (h.same _)
    | pending =>
      simp only [hoverdue, spacing, h.pollInterval]
      refine (Action.alike_instantAfter like _).bind ?_
      rintro next - rfl
      split
      · exact Action.alike_throw (h.same _)
      · exact (Action.alike_ofDialogue (Dialogue.alike_pause like _)).bind fun _ _ _ => ih

theorem alike_waitForJob (command jobId : String) :
    Action.Alike like E Eq (connection.waitForJob command jobId)
      (connection'.waitForJob command jobId) := by
  have hlimit : connection.questionLimit = connection'.questionLimit := by
    rw [questionLimit, questionLimit, spacing, spacing, h.asyncTimeout, h.pollInterval]
  rw [waitForJob, waitForJob, hlimit, h.asyncTimeout]
  refine (Action.alike_instantAfter like _).bind ?_
  rintro deadline - rfl
  exact alike_pollUntil h command jobId deadline _

/-- Connections that send alike run commands alike. -/
theorem alike_executeRaw (command : Command) :
    Action.Alike like E Eq (connection.executeRaw command) (connection'.executeRaw command) := by
  refine (h.send command).bind ?_
  rintro body - rfl
  cases command.isAsync with
  | false => exact Action.alike_pure rfl
  | true =>
    cases startedJob? body with
    | none => exact Action.alike_throw (h.same _)
    | some jobId =>
      refine (alike_waitForJob h command.name jobId).bind ?_
      rintro job - rfl
      exact Action.alike_pure rfl

/-- Connections that send alike carry out every typed call alike. -/
theorem alike_execute {α : Type} (call : Call α) :
    Action.Alike like E Eq (connection.execute call) (connection'.execute call) := by
  refine (alike_executeRaw h call.toCommand).bind ?_
  rintro output - rfl
  exact h.ofExcept _

end Connection

/-- Clients that send alike call alike, with the same records. -/
theorem Client.alike_of_sendsAlike {like : Likeness} {E : ClientError → ClientError → Prop}
    {client client' : Client} (h : client.connection.SendsAlike like E client'.connection)
    (hrefused : ∀ error error', E error error' →
      error.isAuthorizationFailure = error'.isAuthorizationFailure)
    (hapiKey : client.connection.apiKey? = client'.connection.apiKey?) :
    client.Alike like E Eq client' := by
  have hcall : ∀ {α : Type} (call : Call α) {V : α → α → Prop}, (∀ a, V a a) →
      Action.Alike like E V (client.execute call) (client'.execute call) := by
    intro α call V hself
    refine (Connection.alike_execute h call).imp ?_
    rintro a - rfl
    exact hself a
  have hsame : ∀ s : String, s = s := fun _ => rfl
  have husers := User.agree_self hsame
  have haccounts := Account.agree_self hsame
  have hkeys := KeyPair.agree_self hsame
  exact
    { same := h.same
      refused := hrefused
      apiKey? := hapiKey
      domains := fun _ => hcall _ fun _ => rfl
      newDomain := fun _ => hcall _ fun _ => rfl
      accounts := fun _ => hcall _ fun _ =>
        ⟨rfl, List.forall₂_same.2 fun account _ => haccounts account⟩
      newAccount := fun _ => hcall _ haccounts
      users := fun _ => hcall _ fun _ => ⟨rfl, List.forall₂_same.2 fun user _ => husers user⟩
      newKeys := fun _ => hcall _ hkeys
      keys := fun _ => hcall _ hkeys }

end ControlPlane
