import ControlPlane.Proofs.FindOrCreate

/-!
# What providing a user amounts to

`IsProvided` states for some attempts and a result that a user was provided with them: which
commands were sent in which order and with which arguments, when something was created or
registered, and what came of it. It speaks of the attempts as a whole; who resolved what is told
from what the server answered.

The attempts of the four steps form a course (`Course`). As the steps send commands of different
names, what is said of all attempts can be said of one step's alone, and holds for that step.

Main statement: whatever the server does, providing a user is this (`ensureUser_isProvided`).
-/

namespace ControlPlane.Provisioning

open Connection

section

variable (connection : Connection) (accountName domainName : String) (accountType : AccountType)
  (attempts : List Attempt)

/-- The domain was listed by its exact name, or it was created. -/
def ResolvesDomain (domain : Domain) : Prop :=
  connection.Resolves attempts (domainQuery domainName) (fun domain => domain.name == domainName)
    (· = domainCreation domainName) domain

/-- The account was listed in the domain by its exact name, or it was created there. -/
def ResolvesAccount (account : Account) : Prop :=
  ∃ domain, ResolvesDomain connection domainName attempts domain ∧
    connection.Resolves attempts (accountQuery accountName domain.id)
      (fun account => account.name == accountName)
      (CreatesAccount accountName domain accountType) account

/-- The user was the first that was listed for the account. -/
def TakesUser (user : User) : Prop :=
  ∃ account listing rest,
    ResolvesAccount connection accountName domainName accountType attempts account ∧
      connection.Answered attempts (userQuery account) (.ok listing) ∧
      listing.items = user :: rest

/-- The keys were listed, or given, or registered. -/
def GivesKeys (user : User) (keys : KeyPair) : Prop :=
  user.keyPair? = some keys ∨ connection.Answered attempts (.getUserKeys user.id) (.ok keys) ∨
    connection.Answered attempts (.registerUserKeys user.id) (.ok keys)

/-- An attempt at a command that providing a user may take, with the right arguments. -/
inductive Permits : Attempt → Prop
  | listDomains (delivery : Delivery) : Permits ⟨domainQuery domainName, delivery⟩
  | createDomain (delivery : Delivery) : Permits ⟨domainCreation domainName, delivery⟩
  | listAccounts {domain : Domain} (h : ResolvesDomain connection domainName attempts domain)
    (delivery : Delivery) : Permits ⟨accountQuery accountName domain.id, delivery⟩
  | createAccount {domain : Domain} {creation : Call Account}
    (h : ResolvesDomain connection domainName attempts domain)
    (hcreation : CreatesAccount accountName domain accountType creation) (delivery : Delivery) :
    Permits ⟨creation, delivery⟩
  | listUsers {account : Account}
    (h : ResolvesAccount connection accountName domainName accountType attempts account)
    (delivery : Delivery) : Permits ⟨userQuery account, delivery⟩
  | getUserKeys {user : User}
    (h : TakesUser connection accountName domainName accountType attempts user)
    (delivery : Delivery) : Permits ⟨.getUserKeys user.id, delivery⟩
  | registerUserKeys {user : User}
    (h : TakesUser connection accountName domainName accountType attempts user)
    (delivery : Delivery) : Permits ⟨.registerUserKeys user.id, delivery⟩

end

/-- The commands in the order in which they are sent, as far as that goes. -/
def IsOrdered (names : List String) : Prop :=
  ∃ domain ∈ [[], ["createDomain"]], ∃ account ∈ [[], ["createAccount"]],
    ∃ keys ∈ [[], ["getUserKeys"], ["registerUserKeys"]],
      names <+: "listDomains" :: domain ++ "listAccounts" :: account ++ "listUsers" :: keys

/-- A user was provided with these attempts, or else an error came of them. -/
structure IsProvided (connection : Connection) (accountName domainName : String)
    (accountType : AccountType) (attempts : List Attempt)
    (result : Except ClientError UserCredentials) : Prop where
  ordered : IsOrdered (attempts.map fun attempt => attempt.call.name)
  once : (attempts.map fun attempt => attempt.call.name).Nodup
  sends : connection.Sends attempts result
  permits : ∀ attempt ∈ attempts,
    Permits connection accountName domainName accountType attempts attempt
  /-- A domain is created exactly if the domains were listed without it. -/
  createDomain_iff : Made attempts "createDomain" ↔
    ∃ listing, connection.Answered attempts (domainQuery domainName) (.ok listing) ∧
      ∀ domain ∈ listing.items, domain.name ≠ domainName
  /-- An account is created exactly if the accounts of the domain were listed without it. -/
  createAccount_iff : Made attempts "createAccount" ↔
    ∃ domain listing, ResolvesDomain connection domainName attempts domain ∧
      connection.Answered attempts (accountQuery accountName domain.id) (.ok listing) ∧
      ∀ account ∈ listing.items, account.name ≠ accountName
  /-- Keys are registered exactly for a user without an API key. -/
  registerUserKeys_iff : Made attempts "registerUserKeys" ↔
    ∃ user, TakesUser connection accountName domainName accountType attempts user ∧
      user.apiKey = none
  /-- Keys are asked for exactly if the secret of a user's API key is withheld. -/
  getUserKeys_iff : Made attempts "getUserKeys" ↔
    ∃ user apiKey, TakesUser connection accountName domainName accountType attempts user ∧
      user.apiKey = some apiKey ∧ user.secretKey = none
  /-- The first attempt that fails is the last one, and what it fails with is the result. -/
  failure : ∀ {before attempt after error}, attempts = before ++ attempt :: after →
    connection.answer attempt.call attempt.delivery = .error error →
      after = [] ∧ result = .error error
  /-- For an account without users no keys are asked for or registered. -/
  empty : ∀ {account listing},
    ResolvesAccount connection accountName domainName accountType attempts account →
      connection.Answered attempts (userQuery account) (.ok listing) → listing.items = [] →
        result = .error (noUser account) ∧ ¬ Made attempts "getUserKeys" ∧
          ¬ Made attempts "registerUserKeys"
  /-- What is provided is what was resolved. -/
  success : ∀ {credentials}, result = .ok credentials →
    ResolvesDomain connection domainName attempts credentials.domain ∧
      ResolvesAccount connection accountName domainName accountType attempts credentials.account ∧
      TakesUser connection accountName domainName accountType attempts credentials.user ∧
      GivesKeys connection attempts credentials.user credentials.keys
  /-- If no attempt fails, only a missing user can. -/
  complete : (∀ attempt ∈ attempts, ∃ value,
      connection.answer attempt.call attempt.delivery = .ok value) →
    (∃ credentials, result = .ok credentials) ∨
      ∃ account listing,
        ResolvesAccount connection accountName domainName accountType attempts account ∧
          connection.Answered attempts (userQuery account) (.ok listing) ∧ listing.items = [] ∧
          result = .error (noUser account)

/-! ## The course of the steps -/

/-- The steps of providing a user. -/
inductive Step where
  | domain
  | account
  | user
  | keys
  deriving DecidableEq

namespace Step

/-- The commands that a step may send. -/
def names : Step → List String
  | domain => ["listDomains", "createDomain"]
  | account => ["listAccounts", "createAccount"]
  | user => ["listUsers"]
  | keys => ["getUserKeys", "registerUserKeys"]

theorem eq_of_mem_names {step other : Step} {name : String} (h : name ∈ step.names)
    (hother : name ∈ other.names) : step = other := by
  have hdisjoint : ∀ name ∈ step.names, name ∈ other.names → step = other := by
    cases step <;> cases other <;> decide
  exact hdisjoint name h hother

end Step

/-- The attempts of the four steps, and what each step came to. -/
structure Course where
  domainPart : List Attempt
  accountPart : List Attempt
  userPart : List Attempt
  keysPart : List Attempt
  domain : Except ClientError Domain
  account : Except ClientError Account
  user : Except ClientError User
  keys : Except ClientError KeyPair

namespace Course

/-- The attempts of one step. -/
def part (course : Course) : Step → List Attempt
  | .domain => course.domainPart
  | .account => course.accountPart
  | .user => course.userPart
  | .keys => course.keysPart

/-- All attempts of a course. -/
def attempts (course : Course) : List Attempt :=
  course.domainPart ++ (course.accountPart ++ (course.userPart ++ course.keysPart))

/-- What a course comes to. -/
def result (course : Course) : Except ClientError UserCredentials := do
  let domain ← course.domain
  let account ← course.account
  let user ← course.user
  let keys ← course.keys
  return { domain, account, user, keys }

/-- Each step of a course keeps to its protocol, or is left out after an error. -/
structure Follows (course : Course) (connection : Connection) (accountName domainName : String)
    (accountType : AccountType) : Prop where
  domain : domainStep connection domainName course.domainPart course.domain
  account : Protocol.After course.domain (accountStep connection accountName accountType)
    course.accountPart course.account
  user : Protocol.After course.account (userStep connection) course.userPart course.user
  keys : Protocol.After course.user (keysStep connection) course.keysPart course.keys

end Course

variable {connection : Connection} {accountName domainName : String} {accountType : AccountType}

theorem exists_course {attempts : List Attempt} {result : Except ClientError UserCredentials}
    (h : provides connection accountName domainName accountType attempts result) :
    ∃ course : Course, course.Follows connection accountName domainName accountType ∧
      course.attempts = attempts ∧ course.result = result := by
  obtain ⟨domainPart, rest, domain, rfl, hdomain, h⟩ := Protocol.exists_parts_of_then h
  cases domain with
  | error error =>
    obtain ⟨rfl, rfl⟩ := h
    exact ⟨⟨domainPart, [], [], [], .error error, .error error, .error error, .error error⟩,
      ⟨hdomain, ⟨rfl, rfl⟩, ⟨rfl, rfl⟩, ⟨rfl, rfl⟩⟩, rfl, rfl⟩
  | ok domain =>
    obtain ⟨accountPart, rest, account, rfl, haccount, h⟩ := Protocol.exists_parts_of_then h
    cases account with
    | error error =>
      obtain ⟨rfl, rfl⟩ := h
      exact ⟨⟨domainPart, accountPart, [], [], .ok domain, .error error, .error error,
        .error error⟩, ⟨hdomain, haccount, ⟨rfl, rfl⟩, ⟨rfl, rfl⟩⟩, rfl, rfl⟩
    | ok account =>
      obtain ⟨userPart, rest, user, rfl, huser, h⟩ := Protocol.exists_parts_of_then h
      cases user with
      | error error =>
        obtain ⟨rfl, rfl⟩ := h
        exact ⟨⟨domainPart, accountPart, userPart, [], .ok domain, .ok account, .error error,
          .error error⟩, ⟨hdomain, haccount, huser, ⟨rfl, rfl⟩⟩, rfl, rfl⟩
      | ok user =>
        obtain ⟨keysPart, rest, keys, rfl, hkeys, h⟩ := Protocol.exists_parts_of_then h
        refine ⟨⟨domainPart, accountPart, userPart, keysPart, .ok domain, .ok account, .ok user,
          keys⟩, ⟨hdomain, haccount, huser, hkeys⟩, ?_⟩
        cases keys with
        | error error =>
          obtain ⟨rfl, rfl⟩ := h
          exact ⟨by simp [Course.attempts], rfl⟩
        | ok keys =>
          obtain ⟨rfl, rfl⟩ := h
          exact ⟨by simp [Course.attempts], rfl⟩

/-! ## The names of the commands -/

theorem namesIn_domainStep (connection : Connection) (name : String) :
    (domainStep connection name).NamesIn Step.domain.names := by
  refine namesIn_findsOrCreates ?_
  rintro creation rfl
  rfl

theorem namesIn_accountStep (connection : Connection) (name : String) (accountType : AccountType)
    (domain : Domain) :
    (accountStep connection name accountType domain).NamesIn Step.account.names := by
  refine namesIn_findsOrCreates ?_
  rintro creation ⟨letters, -, rfl⟩
  rfl

theorem namesIn_userStep (connection : Connection) (account : Account) :
    (userStep connection account).NamesIn Step.user.names := by
  rw [← List.append_nil Step.user.names]
  refine Protocol.namesIn_then (namesIn_lists connection _) ?_
  intro users
  cases users with
  | nil => exact Protocol.namesIn_ends _ _
  | cons user rest => exact Protocol.namesIn_ends _ _

/-- The users are listed once, and the first is taken. -/
theorem userStep_cases {account : Account} {attempts : List Attempt}
    {user : Except ClientError User} (h : userStep connection account attempts user) :
    ∃ delivery, attempts = [⟨userQuery account, delivery⟩] ∧
      ((∃ error, connection.answer (userQuery account) delivery = .error error ∧
          user = .error error) ∨
        (∃ listing, connection.answer (userQuery account) delivery = .ok listing ∧
          listing.items = [] ∧ user = .error (noUser account)) ∨
        ∃ listing first rest, connection.answer (userQuery account) delivery = .ok listing ∧
          listing.items = first :: rest ∧ user = .ok first) := by
  obtain ⟨listed, more, users, rfl, hlists, hafter⟩ := Protocol.exists_parts_of_then h
  obtain ⟨delivery, rfl, rfl⟩ := lists_cases hlists
  cases hanswer : connection.answer (userQuery account) delivery with
  | error error =>
    rw [hanswer] at hafter
    obtain ⟨rfl, rfl⟩ := hafter
    exact ⟨delivery, rfl, .inl ⟨error, hanswer, rfl⟩⟩
  | ok listing =>
    rw [hanswer, Except.map] at hafter
    cases hitems : listing.items with
    | nil =>
      rw [hitems] at hafter
      obtain ⟨rfl, rfl⟩ := hafter
      exact ⟨delivery, rfl, .inr (.inl ⟨listing, hanswer, hitems, rfl⟩)⟩
    | cons first rest =>
      rw [hitems] at hafter
      obtain ⟨rfl, rfl⟩ := hafter
      exact ⟨delivery, rfl, .inr (.inr ⟨listing, first, rest, hanswer, hitems, rfl⟩)⟩

/-- The first of the users that were listed is taken. -/
theorem userStep_result {account : Account} {attempts : List Attempt}
    {user : Except ClientError User} (h : userStep connection account attempts user)
    {listing : Listing User}
    (hlisting : connection.Answered attempts (userQuery account) (.ok listing)) :
    user = match listing.items with
      | first :: _ => .ok first
      | [] => .error (noUser account) := by
  obtain ⟨delivery, rfl, hcases⟩ := userStep_cases h
  simp only [answered_cons_self, not_answered_nil, or_false] at hlisting
  rcases hcases with ⟨error, herror, -⟩ | ⟨other, hother, hitems, huser⟩ |
    ⟨other, first, rest, hother, hitems, huser⟩
  · exact absurd (herror.symm.trans hlisting) (by simp)
  · obtain rfl := Except.ok.inj (hother.symm.trans hlisting)
    rw [hitems]
    exact huser
  · obtain rfl := Except.ok.inj (hother.symm.trans hlisting)
    rw [hitems]
    exact huser

/-- Keys are listed, or they are asked for or registered once. -/
theorem keysStep_cases {user : User} {attempts : List Attempt} {keys : Except ClientError KeyPair}
    (h : keysStep connection user attempts keys) :
    (∃ pair, user.keyPair? = some pair ∧ attempts = [] ∧ keys = .ok pair) ∨
      (∃ apiKey delivery, user.apiKey = some apiKey ∧ user.secretKey = none ∧
        attempts = [⟨.getUserKeys user.id, delivery⟩] ∧
        keys = connection.answer (.getUserKeys user.id) delivery) ∨
      ∃ delivery, user.apiKey = none ∧ attempts = [⟨.registerUserKeys user.id, delivery⟩] ∧
        keys = connection.answer (.registerUserKeys user.id) delivery := by
  rw [keysStep] at h
  cases hkey : user.apiKey with
  | none =>
    simp only [User.keyPair?, hkey] at h
    obtain ⟨delivery, rfl, rfl⟩ := h
    exact .inr (.inr ⟨delivery, rfl, rfl, rfl⟩)
  | some apiKey =>
    cases hsecret : user.secretKey with
    | none =>
      simp only [User.keyPair?, hkey, hsecret] at h
      obtain ⟨delivery, rfl, rfl⟩ := h
      exact .inr (.inl ⟨apiKey, delivery, rfl, rfl, rfl, rfl⟩)
    | some secret =>
      simp only [User.keyPair?, hkey, hsecret] at h
      obtain ⟨rfl, rfl⟩ := h
      exact .inl ⟨⟨apiKey, secret⟩, by simp [User.keyPair?, hkey, hsecret], rfl, rfl⟩

theorem namesIn_keysStep (connection : Connection) (user : User) :
    (keysStep connection user).NamesIn Step.keys.names := by
  intro attempts keys h attempt hattempt
  rcases keysStep_cases h with ⟨pair, -, rfl, -⟩ | ⟨apiKey, delivery, -, -, rfl, -⟩ |
    ⟨delivery, -, rfl, -⟩
  · exact absurd hattempt List.not_mem_nil
  · rw [List.mem_singleton.1 hattempt]
    exact List.mem_cons_self
  · rw [List.mem_singleton.1 hattempt]
    exact List.mem_cons_of_mem _ List.mem_cons_self

/-! ## What is said of all attempts holds for one step -/

namespace Course

variable {course : Course}

theorem mem_attempts {attempt : Attempt} :
    attempt ∈ course.attempts ↔ ∃ step, attempt ∈ course.part step := by
  simp only [attempts, List.mem_append]
  constructor
  · rintro (hmem | hmem | hmem | hmem)
    · exact ⟨.domain, hmem⟩
    · exact ⟨.account, hmem⟩
    · exact ⟨.user, hmem⟩
    · exact ⟨.keys, hmem⟩
  · rintro ⟨step, hmem⟩
    cases step with
    | domain => exact .inl hmem
    | account => exact .inr (.inl hmem)
    | user => exact .inr (.inr (.inl hmem))
    | keys => exact .inr (.inr (.inr hmem))

theorem Follows.name_mem (h : course.Follows connection accountName domainName accountType)
    (step : Step) : ∀ attempt ∈ course.part step, attempt.call.name ∈ step.names := by
  cases step with
  | domain => exact namesIn_domainStep connection domainName h.domain
  | account =>
    exact Protocol.namesIn_after (namesIn_accountStep connection accountName accountType) _
      h.account
  | user => exact Protocol.namesIn_after (namesIn_userStep connection) _ h.user
  | keys => exact Protocol.namesIn_after (namesIn_keysStep connection) _ h.keys

/-- Each step has its own commands. -/
theorem Follows.allIn (h : course.Follows connection accountName domainName accountType)
    (step : Step) : AllIn step.names (course.part step) course.attempts := by
  refine ⟨fun attempt hattempt => mem_attempts.2 ⟨step, hattempt⟩, ?_⟩
  intro attempt hattempt hname
  obtain ⟨other, hmem⟩ := mem_attempts.1 hattempt
  obtain rfl := Step.eq_of_mem_names hname (h.name_mem other attempt hmem)
  exact hmem

theorem Follows.resolvesDomain_iff
    (h : course.Follows connection accountName domainName accountType) (domain : Domain) :
    ResolvesDomain connection domainName course.attempts domain ↔ course.domain = .ok domain := by
  refine (resolves_iff_of_allIn (h.allIn .domain) List.mem_cons_self ?_ domain).trans
    (resolves_iff (fun _ => name_of_eq_domainCreation) (by simp) h.domain domain)
  intro creation hcreated
  simp [name_of_eq_domainCreation hcreated, Step.names]

theorem Follows.resolvesAccount_iff
    (h : course.Follows connection accountName domainName accountType) (account : Account) :
    ResolvesAccount connection accountName domainName accountType course.attempts account ↔
      course.account = .ok account := by
  have hstep : ∀ domain, course.domain = .ok domain →
      (connection.Resolves course.attempts (accountQuery accountName domain.id)
          (fun account => account.name == accountName)
          (CreatesAccount accountName domain accountType) account ↔
        course.account = .ok account) := by
    intro domain hdomain
    have hkept := h.account
    rw [hdomain] at hkept
    refine (resolves_iff_of_allIn (h.allIn .account) List.mem_cons_self ?_ account).trans
      (resolves_iff (fun _ => name_of_createsAccount) (by simp) hkept account)
    intro creation hcreated
    simp [name_of_createsAccount hcreated, Step.names]
  constructor
  · rintro ⟨domain, hdomain, haccount⟩
    exact (hstep domain ((h.resolvesDomain_iff domain).1 hdomain)).1 haccount
  · intro haccount
    have hkept := h.account
    rw [haccount] at hkept
    obtain ⟨domain, hdomain, -⟩ := Protocol.exists_of_after_ok hkept
    exact ⟨domain, (h.resolvesDomain_iff domain).2 hdomain, (hstep domain hdomain).2 haccount⟩

theorem Follows.takesUser_iff
    (h : course.Follows connection accountName domainName accountType) (user : User) :
    TakesUser connection accountName domainName accountType course.attempts user ↔
      course.user = .ok user := by
  have hanswered : ∀ account result,
      connection.Answered course.attempts (userQuery account) result ↔
        connection.Answered course.userPart (userQuery account) result :=
    fun account => answered_iff_of_allIn connection (h.allIn .user) List.mem_cons_self
  simp only [TakesUser, h.resolvesAccount_iff, hanswered]
  constructor
  · rintro ⟨account, listing, rest, haccount, hlisting, hitems⟩
    have hkept := h.user
    rw [haccount] at hkept
    rw [userStep_result hkept hlisting, hitems]
  · intro huser
    have hkept := h.user
    rw [huser] at hkept
    obtain ⟨account, haccount, hkept⟩ := Protocol.exists_of_after_ok hkept
    obtain ⟨delivery, hpart, hcases⟩ := userStep_cases hkept
    rcases hcases with ⟨error, -, hresult⟩ | ⟨listing, -, -, hresult⟩ |
      ⟨listing, first, rest, hanswer, hitems, hresult⟩
    · exact absurd hresult (by simp)
    · exact absurd hresult (by simp)
    · obtain rfl := Except.ok.inj hresult
      exact ⟨account, listing, rest, haccount, hpart ▸ ⟨delivery, List.mem_cons_self, hanswer⟩,
        hitems⟩

/-! ## What is sent when -/

theorem Follows.made_createDomain_iff
    (h : course.Follows connection accountName domainName accountType) :
    Made course.attempts "createDomain" ↔
      ∃ listing, connection.Answered course.attempts (domainQuery domainName) (.ok listing) ∧
        ∀ domain ∈ listing.items, domain.name ≠ domainName := by
  have hanswered : ∀ result, connection.Answered course.attempts (domainQuery domainName) result ↔
      connection.Answered course.domainPart (domainQuery domainName) result :=
    answered_iff_of_allIn connection (h.allIn .domain) List.mem_cons_self
  rw [made_iff_of_allIn (h.allIn .domain) (by simp [Step.names]), part,
    made_creation_iff (fun _ => name_of_eq_domainCreation) (by simp) h.domain]
  simp only [hanswered, beq_eq_false_iff_ne]

theorem Follows.made_createAccount_iff
    (h : course.Follows connection accountName domainName accountType) :
    Made course.attempts "createAccount" ↔
      ∃ domain listing, ResolvesDomain connection domainName course.attempts domain ∧
        connection.Answered course.attempts (accountQuery accountName domain.id) (.ok listing) ∧
        ∀ account ∈ listing.items, account.name ≠ accountName := by
  have hanswered : ∀ domain : Domain, ∀ result,
      connection.Answered course.attempts (accountQuery accountName domain.id) result ↔
        connection.Answered course.accountPart (accountQuery accountName domain.id) result :=
    fun domain => answered_iff_of_allIn connection (h.allIn .account) List.mem_cons_self
  have hstep : ∀ domain, course.domain = .ok domain → (Made course.accountPart "createAccount" ↔
      ∃ listing,
        connection.Answered course.accountPart (accountQuery accountName domain.id) (.ok listing) ∧
          ∀ account ∈ listing.items, account.name ≠ accountName) := by
    intro domain hdomain
    have hkept := h.account
    rw [hdomain] at hkept
    rw [made_creation_iff (fun _ => name_of_createsAccount) (by simp) hkept]
    simp only [beq_eq_false_iff_ne]
  rw [made_iff_of_allIn (h.allIn .account) (by simp [Step.names]), part]
  simp only [hanswered, h.resolvesDomain_iff]
  constructor
  · intro hmade
    have hne : course.accountPart ≠ [] := by
      intro hnil
      rw [hnil] at hmade
      exact not_made_nil _ hmade
    obtain ⟨domain, hdomain, -⟩ := Protocol.exists_of_after_of_ne_nil h.account hne
    obtain ⟨listing, hlisting, hmissing⟩ := (hstep domain hdomain).1 hmade
    exact ⟨domain, listing, hdomain, hlisting, hmissing⟩
  · rintro ⟨domain, listing, hdomain, hlisting, hmissing⟩
    exact (hstep domain hdomain).2 ⟨listing, hlisting, hmissing⟩

theorem Follows.made_registerUserKeys_iff
    (h : course.Follows connection accountName domainName accountType) :
    Made course.attempts "registerUserKeys" ↔
      ∃ user, TakesUser connection accountName domainName accountType course.attempts user ∧
        user.apiKey = none := by
  rw [made_iff_of_allIn (h.allIn .keys) (by simp [Step.names]), part]
  simp only [h.takesUser_iff]
  have hkept := h.keys
  cases huser : course.user with
  | error error =>
    rw [huser] at hkept
    simp [hkept.1]
  | ok user =>
    rw [huser] at hkept
    rcases keysStep_cases hkept with ⟨pair, hpair, hpart, -⟩ |
      ⟨apiKey, delivery, hkey, -, hpart, -⟩ | ⟨delivery, hkey, hpart, -⟩
    · have hkey : user.apiKey ≠ none := by
        intro hnone
        simp [User.keyPair?, hnone] at hpair
      simp [hpart, hkey]
    · simp [hpart, hkey, Call.getUserKeys]
    · simp [hpart, hkey, Call.registerUserKeys]

theorem Follows.made_getUserKeys_iff
    (h : course.Follows connection accountName domainName accountType) :
    Made course.attempts "getUserKeys" ↔
      ∃ user apiKey, TakesUser connection accountName domainName accountType course.attempts user ∧
        user.apiKey = some apiKey ∧ user.secretKey = none := by
  rw [made_iff_of_allIn (h.allIn .keys) (by simp [Step.names]), part]
  simp only [h.takesUser_iff]
  have hkept := h.keys
  cases huser : course.user with
  | error error =>
    rw [huser] at hkept
    simp [hkept.1]
  | ok user =>
    rw [huser] at hkept
    rcases keysStep_cases hkept with ⟨pair, hpair, hpart, -⟩ |
      ⟨apiKey, delivery, hkey, hsecret, hpart, -⟩ | ⟨delivery, hkey, hpart, -⟩
    · have hsecret : user.apiKey.isSome → user.secretKey ≠ none := by
        intro hkey hnone
        simp [User.keyPair?, hnone] at hpair
      simp only [hpart, not_made_nil, false_iff]
      rintro ⟨other, apiKey, hother, hkey, hnone⟩
      obtain rfl := Except.ok.inj hother
      exact hsecret (by simp [hkey]) hnone
    · simp [hpart, hkey, hsecret, Call.getUserKeys]
    · simp [hpart, hkey, Call.registerUserKeys]

/-! ## In which order -/

theorem Follows.isOrdered (h : course.Follows connection accountName domainName accountType) :
    IsOrdered (course.attempts.map fun attempt => attempt.call.name) := by
  obtain ⟨created, hcreated, hdomainNames⟩ :=
    names_findsOrCreates (fun _ => name_of_eq_domainCreation) h.domain
  have haccount := h.account
  have huser := h.user
  have hkeys := h.keys
  cases hdomain : course.domain with
  | error error =>
    rw [hdomain] at haccount
    rw [haccount.2] at huser
    rw [huser.2] at hkeys
    refine ⟨created, hcreated, [], List.mem_cons_self, [], List.mem_cons_self, ?_⟩
    simp [attempts, hdomainNames, haccount.1, huser.1, hkeys.1]
  | ok domain =>
    rw [hdomain] at haccount
    obtain ⟨created', hcreated', haccountNames⟩ :=
      names_findsOrCreates (fun _ => name_of_createsAccount) haccount
    cases hresolved : course.account with
    | error error =>
      rw [hresolved] at huser
      rw [huser.2] at hkeys
      refine ⟨created, hcreated, created', hcreated', [], List.mem_cons_self, ?_⟩
      simp [attempts, hdomainNames, haccountNames, huser.1, hkeys.1]
    | ok account =>
      rw [hresolved] at huser
      obtain ⟨delivery, huserPart, -⟩ := userStep_cases huser
      cases htaken : course.user with
      | error error =>
        rw [htaken] at hkeys
        refine ⟨created, hcreated, created', hcreated', [], List.mem_cons_self, ?_⟩
        simp [attempts, hdomainNames, haccountNames, huserPart, hkeys.1]
      | ok user =>
        rw [htaken] at hkeys
        rcases keysStep_cases hkeys with ⟨pair, -, hpart, -⟩ | ⟨apiKey, delivery, -, -, hpart, -⟩ |
          ⟨delivery, -, hpart, -⟩
        · refine ⟨created, hcreated, created', hcreated', [], by simp, ?_⟩
          simp [attempts, hdomainNames, haccountNames, huserPart, hpart]
        · refine ⟨created, hcreated, created', hcreated', ["getUserKeys"], by simp, ?_⟩
          simp [attempts, hdomainNames, haccountNames, huserPart, hpart, Call.getUserKeys]
        · refine ⟨created, hcreated, created', hcreated', ["registerUserKeys"], by simp, ?_⟩
          simp [attempts, hdomainNames, haccountNames, huserPart, hpart, Call.registerUserKeys]

theorem Follows.permits (h : course.Follows connection accountName domainName accountType) :
    ∀ attempt ∈ course.attempts,
      Permits connection accountName domainName accountType course.attempts attempt := by
  intro attempt hattempt
  obtain ⟨step, hmem⟩ := mem_attempts.1 hattempt
  have hne : course.part step ≠ [] := List.ne_nil_of_mem hmem
  cases step with
  | domain =>
    rw [part] at hmem
    rcases findsOrCreates_cases h.domain with ⟨delivery, error, hpart, -⟩ |
      ⟨delivery, listing, record, hpart, -⟩ |
      ⟨delivery, listing, creation, delivery', hpart, -, -, rfl, -⟩
    · rw [hpart, List.mem_singleton] at hmem
      exact hmem ▸ .listDomains delivery
    · rw [hpart, List.mem_singleton] at hmem
      exact hmem ▸ .listDomains delivery
    · rw [hpart, List.mem_cons, List.mem_singleton] at hmem
      rcases hmem with rfl | rfl
      · exact .listDomains delivery
      · exact .createDomain delivery'
  | account =>
    obtain ⟨domain, hdomain, hkept⟩ := Protocol.exists_of_after_of_ne_nil h.account hne
    rw [← h.resolvesDomain_iff] at hdomain
    rw [part] at hmem
    rcases findsOrCreates_cases hkept with ⟨delivery, error, hpart, -⟩ |
      ⟨delivery, listing, record, hpart, -⟩ |
      ⟨delivery, listing, creation, delivery', hpart, -, -, hcreation, -⟩
    · rw [hpart, List.mem_singleton] at hmem
      exact hmem ▸ .listAccounts hdomain delivery
    · rw [hpart, List.mem_singleton] at hmem
      exact hmem ▸ .listAccounts hdomain delivery
    · rw [hpart, List.mem_cons, List.mem_singleton] at hmem
      rcases hmem with rfl | rfl
      · exact .listAccounts hdomain delivery
      · exact .createAccount hdomain hcreation delivery'
  | user =>
    obtain ⟨account, haccount, hkept⟩ := Protocol.exists_of_after_of_ne_nil h.user hne
    rw [← h.resolvesAccount_iff] at haccount
    obtain ⟨delivery, hpart, -⟩ := userStep_cases hkept
    rw [part, hpart, List.mem_singleton] at hmem
    exact hmem ▸ .listUsers haccount delivery
  | keys =>
    obtain ⟨user, huser, hkept⟩ := Protocol.exists_of_after_of_ne_nil h.keys hne
    rw [← h.takesUser_iff] at huser
    rw [part] at hmem
    rcases keysStep_cases hkept with ⟨pair, -, hpart, -⟩ | ⟨apiKey, delivery, -, -, hpart, -⟩ |
      ⟨delivery, -, hpart, -⟩
    · exact absurd hpart hne
    · rw [hpart, List.mem_singleton] at hmem
      exact hmem ▸ .getUserKeys huser delivery
    · rw [hpart, List.mem_singleton] at hmem
      exact hmem ▸ .registerUserKeys huser delivery

/-! ## What comes of it -/

theorem Follows.empty (h : course.Follows connection accountName domainName accountType)
    {account : Account} {listing : Listing User}
    (haccount : ResolvesAccount connection accountName domainName accountType course.attempts
      account)
    (hlisting : connection.Answered course.attempts (userQuery account) (.ok listing))
    (hitems : listing.items = []) :
    course.result = .error (noUser account) ∧ ¬ Made course.attempts "getUserKeys" ∧
      ¬ Made course.attempts "registerUserKeys" := by
  rw [h.resolvesAccount_iff] at haccount
  rw [answered_iff_of_allIn connection (h.allIn .user) List.mem_cons_self, part] at hlisting
  have hkept := h.user
  rw [haccount] at hkept
  have huser : course.user = .error (noUser account) := by
    rw [userStep_result hkept hlisting, hitems]
  have hkeys := h.keys
  rw [huser] at hkeys
  refine ⟨?_, ?_, ?_⟩
  · obtain ⟨domain, hdomain, -⟩ := Protocol.exists_of_after_ok (haccount ▸ h.account)
    rw [result, hdomain, haccount, huser]
    rfl
  · rw [made_iff_of_allIn (h.allIn .keys) (by simp [Step.names]), part, hkeys.1]
    exact not_made_nil _
  · rw [made_iff_of_allIn (h.allIn .keys) (by simp [Step.names]), part, hkeys.1]
    exact not_made_nil _

theorem result_eq_ok {course : Course} {credentials : UserCredentials}
    (h : course.result = .ok credentials) :
    course.domain = .ok credentials.domain ∧ course.account = .ok credentials.account ∧
      course.user = .ok credentials.user ∧ course.keys = .ok credentials.keys := by
  obtain ⟨_, _, _, _, domain, account, user, keys⟩ := course
  cases domain with
  | error error => exact absurd h (by simp [result, bind, Except.bind])
  | ok domain =>
    cases account with
    | error error => exact absurd h (by simp [result, bind, Except.bind])
    | ok account =>
      cases user with
      | error error => exact absurd h (by simp [result, bind, Except.bind])
      | ok user =>
        cases keys with
        | error error => exact absurd h (by simp [result, bind, Except.bind])
        | ok keys =>
          obtain rfl := Except.ok.inj h
          exact ⟨rfl, rfl, rfl, rfl⟩

theorem Follows.givesKeys (h : course.Follows connection accountName domainName accountType)
    {user : User} {keys : KeyPair} (huser : course.user = .ok user)
    (hkeys : course.keys = .ok keys) : GivesKeys connection course.attempts user keys := by
  have hkept := h.keys
  rw [huser, hkeys] at hkept
  have hsubset := (h.allIn .keys).subset
  rcases keysStep_cases hkept with ⟨pair, hpair, -, hresult⟩ |
    ⟨apiKey, delivery, -, -, hpart, hanswer⟩ | ⟨delivery, -, hpart, hanswer⟩
  · obtain rfl := Except.ok.inj hresult
    exact .inl hpair
  · exact .inr (.inl ⟨delivery, hsubset (by simp [part, hpart]), hanswer.symm⟩)
  · exact .inr (.inr ⟨delivery, hsubset (by simp [part, hpart]), hanswer.symm⟩)

/-- If no attempt fails, every step comes to something, but for a missing user. -/
theorem Follows.complete (h : course.Follows connection accountName domainName accountType)
    (hanswers : ∀ attempt ∈ course.attempts, ∃ value,
      connection.answer attempt.call attempt.delivery = .ok value) :
    (∃ credentials, course.result = .ok credentials) ∨
      ∃ account listing,
        ResolvesAccount connection accountName domainName accountType course.attempts account ∧
          connection.Answered course.attempts (userQuery account) (.ok listing) ∧
          listing.items = [] ∧ course.result = .error (noUser account) := by
  have hpart : ∀ {step before attempt}, course.part step = before ++ [attempt] →
      ∀ error, connection.answer attempt.call attempt.delivery ≠ .error error := by
    intro step before attempt hsplit error herror
    have hmem : attempt ∈ course.part step := by simp [hsplit]
    obtain ⟨value, hvalue⟩ := hanswers attempt (mem_attempts.2 ⟨step, hmem⟩)
    exact absurd (hvalue.symm.trans herror) (by simp)
  have hdomain := h.domain
  have haccount := h.account
  have huser := h.user
  have hkeys := h.keys
  cases hfirst : course.domain with
  | error error =>
    rw [hfirst] at hdomain
    rcases blames_findsOrCreates connection (fun _ => False) _ _ _ hdomain with hfalse |
      ⟨before, attempt, hsplit, hanswer⟩
    · exact hfalse.elim
    · exact absurd hanswer (@hpart .domain _ _ hsplit error)
  | ok domain =>
    rw [hfirst] at haccount
    cases hsecond : course.account with
    | error error =>
      rw [hsecond] at haccount
      rcases blames_findsOrCreates connection (fun _ => False) _ _ _ haccount with hfalse |
        ⟨before, attempt, hsplit, hanswer⟩
      · exact hfalse.elim
      · exact absurd hanswer (@hpart .account _ _ hsplit error)
    | ok account =>
      rw [hsecond] at huser
      obtain ⟨delivery, hsplit, hcases⟩ := userStep_cases huser
      rcases hcases with ⟨error, hanswer, -⟩ | ⟨listing, hanswer, hitems, -⟩ |
        ⟨listing, first, rest, -, -, hthird⟩
      · exact absurd hanswer (@hpart .user [] _ hsplit error)
      · have hresolved := (h.resolvesAccount_iff account).2 hsecond
        have hlisted : connection.Answered course.attempts (userQuery account) (.ok listing) :=
          ⟨delivery, (h.allIn .user).subset (by simp [part, hsplit]), hanswer⟩
        exact .inr ⟨account, listing, hresolved, hlisted, hitems,
          (h.empty hresolved hlisted hitems).1⟩
      · rw [hthird] at hkeys
        cases hfourth : course.keys with
        | ok keys =>
          refine .inl ⟨⟨domain, account, first, keys⟩, ?_⟩
          rw [result, hfirst, hsecond, hthird, hfourth]
          rfl
        | error error =>
          rw [hfourth] at hkeys
          rcases keysStep_cases hkeys with ⟨pair, -, -, hresult⟩ |
            ⟨apiKey, delivery, -, -, hsplit, hanswer⟩ | ⟨delivery, -, hsplit, hanswer⟩
          · exact absurd hresult (by simp)
          · exact absurd hanswer.symm (@hpart .keys [] _ hsplit error)
          · exact absurd hanswer.symm (@hpart .keys [] _ hsplit error)

end Course

theorem IsOrdered.nodup {names : List String} (h : IsOrdered names) : names.Nodup := by
  have hall : ∀ domain ∈ [[], ["createDomain"]], ∀ account ∈ [[], ["createAccount"]],
      ∀ keys ∈ [[], ["getUserKeys"], ["registerUserKeys"]],
        ("listDomains" :: domain ++ "listAccounts" :: account ++ "listUsers" :: keys).Nodup := by
    decide
  obtain ⟨domain, hdomain, account, haccount, keys, hkeys, hbegin⟩ := h
  exact (hall domain hdomain account haccount keys hkeys).sublist hbegin.sublist

theorem stopsAt_provides (connection : Connection) (counts : ClientError → Prop)
    (accountName domainName : String) (accountType : AccountType) :
    (provides connection accountName domainName accountType).StopsAt connection counts := by
  refine Protocol.stopsAt_then (stopsAt_findsOrCreates connection counts _ _ _) fun domain => ?_
  refine Protocol.stopsAt_then (stopsAt_findsOrCreates connection counts _ _ _) fun account => ?_
  refine Protocol.stopsAt_then ?_ fun user => ?_
  · refine Protocol.stopsAt_then (stopsAt_lists connection counts _) fun users => ?_
    cases users with
    | nil => exact Protocol.stopsAt_ends connection counts _
    | cons user rest => exact Protocol.stopsAt_ends connection counts _
  · refine Protocol.stopsAt_then ?_ fun keys => Protocol.stopsAt_ends connection counts _
    rw [keysStep]
    cases user.keyPair? with
    | some pair => exact Protocol.stopsAt_ends connection counts _
    | none =>
      cases user.apiKey.isSome with
      | true => exact Protocol.stopsAt_calls connection counts _
      | false => exact Protocol.stopsAt_calls connection counts _

theorem isProvided_of_provides {attempts : List Attempt}
    {result : Except ClientError UserCredentials}
    (h : provides connection accountName domainName accountType attempts result) :
    IsProvided connection accountName domainName accountType attempts result := by
  have hstops : (provides connection accountName domainName accountType).StopsAt connection
      (fun _ => True) := stopsAt_provides connection _ accountName domainName accountType
  obtain ⟨course, hcourse, rfl, rfl⟩ := exists_course h
  exact {
    ordered := hcourse.isOrdered
    once := hcourse.isOrdered.nodup
    sends := Protocol.sends_of_stopsAt hstops (fun _ => trivial) h
    permits := hcourse.permits
    createDomain_iff := hcourse.made_createDomain_iff
    createAccount_iff := hcourse.made_createAccount_iff
    registerUserKeys_iff := hcourse.made_registerUserKeys_iff
    getUserKeys_iff := hcourse.made_getUserKeys_iff
    failure := fun hsplit hanswer => hstops h hsplit hanswer trivial
    empty := hcourse.empty
    success := by
      intro credentials hresult
      obtain ⟨hdomain, haccount, huser, hkeys⟩ := Course.result_eq_ok hresult
      exact ⟨(hcourse.resolvesDomain_iff _).2 hdomain, (hcourse.resolvesAccount_iff _).2 haccount,
        (hcourse.takesUser_iff _).2 huser, hcourse.givesKeys huser hkeys⟩
    complete := hcourse.complete }

/-- Whatever the server does, a user is provided step by step, or the first error is passed on. -/
theorem ensureUser_isProvided {σ : Type} (client : Client) (accountName domainName : String)
    (accountType : AccountType) (world : World σ) :
    ∃ attempts result world',
      client.connection.Conducts
          (ExceptT.run (ensureUser client accountName domainName accountType)) world attempts
          result world' ∧
        IsProvided client.connection accountName domainName accountType attempts result := by
  obtain ⟨attempts, result, world', hconducts, hprovides⟩ :=
    keepsTo_ensureUser client accountName domainName accountType σ world
  exact ⟨attempts, result, world', hconducts, isProvided_of_provides hprovides⟩

end ControlPlane.Provisioning
