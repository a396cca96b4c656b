import ControlPlane.Proofs.ProvidedUsers
import ControlPlane.Proofs.Replays
import Mathlib.Data.List.Forall2

/-!
# Faithful control planes

A control plane stores domains, accounts with their users, and key pairs. It is faithful if its
listings give what is stored and passes the filter, in the order in which it is stored; if what it
reports as created or registered is stored from then on; and if it gives the keys that it has.
Listings may withhold the secret of a pair, now and then or always. A faithful control plane may
still refuse to create or to register anything.

Each step of providing a user is looked at on such a control plane: what it finds there, and what it
leaves.
-/

namespace ControlPlane

/-- What a control plane stores; the keys are those of a user's identifier. -/
structure Store where
  domains : List Domain
  accounts : List Account
  keys : String → Option KeyPair

namespace Store

/-- The users that are stored, each with its account. -/
def users (store : Store) : List (Account × User) :=
  store.accounts.flatMap fun account => account.users.map (account, ·)

/-- With one more domain. -/
def addDomain (store : Store) (domain : Domain) : Store :=
  { store with domains := store.domains ++ [domain] }

/-- With one more account. -/
def addAccount (store : Store) (account : Account) : Store :=
  { store with accounts := store.accounts ++ [account] }

/-- With a key pair for a user. -/
def setKeys (store : Store) (userId : String) (pair : KeyPair) : Store :=
  { store with keys := Function.update store.keys userId (some pair) }

end Store

/-! ## Filters -/

/-- Whether a domain passes a filter. -/
def DomainFilter.admits (filter : DomainFilter) (domain : Domain) : Bool :=
  filter.id.all (domain.id == ·) && filter.name.all (domain.name == ·)

/-- Whether an account passes a filter. -/
def AccountFilter.admits (filter : AccountFilter) (account : Account) : Bool :=
  filter.id.all (account.id == ·) && filter.name.all (account.name == ·) &&
    filter.domainId.all (account.domainId == ·)

/-- Whether a user of an account passes a filter. -/
def UserFilter.admits (filter : UserFilter) (entry : Account × User) : Bool :=
  filter.id.all (entry.2.id == ·) && filter.username.all (entry.2.username == ·) &&
    filter.account.all (entry.1.name == ·) && filter.domainId.all (entry.1.domainId == ·)

/-! ## Listings -/

/-- A stored user as it may be listed: with the API key of its pair, and with the secret unless that
is withheld. -/
def User.Shows (keys : String → Option KeyPair) (stored shown : User) : Prop :=
  ∃ withheld : Bool, shown =
    { stored with
      apiKey := (keys stored.id).map KeyPair.apiKey
      secretKey := if withheld then none else (keys stored.id).map KeyPair.secretKey }

/-- A stored account as it may be listed. -/
def Account.Shows (keys : String → Option KeyPair) (stored shown : Account) : Prop :=
  ∃ users, List.Forall₂ (User.Shows keys) stored.users users ∧ shown = { stored with users }

/-- A server that stores what it is told, and lists what it stores. -/
structure Faithful {σ : Type} (connection : Connection) (server : Server σ) (view : σ → Store) :
    Prop where
  listDomains : ∀ (filter : DomainFilter) (state : σ), ∃ count state',
    connection.outcome server filter.call state =
        (.ok ⟨count, (view state).domains.filter filter.admits⟩, state') ∧
      view state' = view state
  listAccounts : ∀ (filter : AccountFilter) (state : σ), ∃ listing state',
    connection.outcome server filter.call state = (.ok listing, state') ∧
      view state' = view state ∧
      List.Forall₂ (Account.Shows (view state).keys) ((view state).accounts.filter filter.admits)
        listing.items
  listUsers : ∀ (filter : UserFilter) (state : σ), ∃ listing state',
    connection.outcome server filter.call state = (.ok listing, state') ∧
      view state' = view state ∧
      List.Forall₂ (User.Shows (view state).keys)
        (((view state).users.filter filter.admits).map Prod.snd) listing.items
  /-- A domain that is created is stored last. -/
  createDomain : ∀ {new : NewDomain} {state state' : σ} {domain : Domain},
    connection.outcome server new.call state = (.ok domain, state') →
      domain.name = new.name ∧ view state' = (view state).addDomain domain
  /-- An account that is created is stored last, under the name of its only user, who has no
  keys. -/
  createAccount : ∀ {new : NewAccount} {state state' : σ} {shown : Account},
    new.account = none → connection.outcome server new.call state = (.ok shown, state') →
      ∃ account user, Account.Shows (view state).keys account shown ∧
        account.name = new.username ∧ account.domainId = new.domainId ∧
        account.users = [user] ∧ user.username = new.username ∧
        (view state).keys user.id = none ∧ view state' = (view state).addAccount account
  registerUserKeys : ∀ {userId : String} {state state' : σ} {pair : KeyPair},
    connection.outcome server (.registerUserKeys userId) state = (.ok pair, state') →
      view state' = (view state).setKeys userId pair
  getUserKeys : ∀ {userId : String} {state : σ} {pair : KeyPair},
    (view state).keys userId = some pair → ∃ state',
      connection.outcome server (.getUserKeys userId) state = (.ok pair, state') ∧
        view state' = view state

/-! ## What is shown of what is stored -/

theorem Account.id_of_shows {keys : String → Option KeyPair} {stored shown : Account}
    (h : Account.Shows keys stored shown) :
    shown.id = stored.id ∧ shown.name = stored.name ∧ shown.domainId = stored.domainId := by
  obtain ⟨users, -, rfl⟩ := h
  exact ⟨rfl, rfl, rfl⟩

theorem User.id_of_shows {keys : String → Option KeyPair} {stored shown : User}
    (h : User.Shows keys stored shown) : shown.id = stored.id := by
  obtain ⟨withheld, rfl⟩ := h
  rfl

/-- What is looked for among what is shown is shown of what is looked for among what is stored. -/
theorem find?_of_forall₂ {α β : Type} {shows : α → β → Prop} {p : α → Bool} {q : β → Bool}
    (hsame : ∀ stored shown, shows stored shown → q shown = p stored) {stored : List α}
    {shown : List β} (h : List.Forall₂ shows stored shown) :
    (∃ a b, stored.find? p = some a ∧ shown.find? q = some b ∧ shows a b) ∨
      stored.find? p = none ∧ shown.find? q = none := by
  induction h with
  | nil => exact .inr ⟨rfl, rfl⟩
  | @cons a b stored shown hshows hrest ih =>
    have hq := hsame a b hshows
    cases hp : p a with
    | true =>
      rw [hp] at hq
      exact .inl ⟨a, b, List.find?_cons_of_pos hp, List.find?_cons_of_pos hq, hshows⟩
    | false =>
      rw [hp] at hq
      rw [List.find?_cons_of_neg (by simp [hp]), List.find?_cons_of_neg (by simp [hq])]
      exact ih

/-! ## Finding or creating at a server -/

namespace Connection

variable {σ α : Type} {connection : Connection} {server : Server σ}

/-- If the list is given, a record is found in it, or it is created in the state after that. -/
theorem findsOrCreates_served {query : Call (Listing α)} {wanted : α → Bool}
    {creations : Call α → Prop} {attempts : List Attempt} {result : Except ClientError α}
    {state between state' : σ} {listing : Listing α}
    (hlisting : connection.outcome server query state = (.ok listing, between))
    (h : connection.findsOrCreates query wanted creations attempts result)
    (hattempted : connection.Attempted server state attempts state') :
    (∃ record, listing.items.find? wanted = some record ∧
        attempts.map (fun attempt => attempt.call.name) = [query.name] ∧ result = .ok record ∧
        state' = between) ∨
      listing.items.find? wanted = none ∧ ∃ creation, creations creation ∧
        attempts.map (fun attempt => attempt.call.name) = [query.name, creation.name] ∧
        connection.outcome server creation between = (result, state') := by
  rcases findsOrCreates_cases h with ⟨delivery, error, rfl, hanswer, -⟩ |
    ⟨delivery, other, record, rfl, hanswer, hfind, hresult⟩ |
    ⟨delivery, other, creation, delivery', rfl, hanswer, hfind, hcreation, rfl⟩
  · have houtcome := hlisting.symm.trans (outcome_of_attempted hattempted)
    exact absurd ((Prod.mk.inj houtcome).1.trans hanswer) (by simp)
  · obtain ⟨hanswer', rfl⟩ :=
      Prod.mk.inj (hlisting.symm.trans (outcome_of_attempted hattempted))
    obtain rfl := Except.ok.inj (hanswer'.trans hanswer)
    exact .inl ⟨record, hfind, rfl, hresult, rfl⟩
  · obtain ⟨middle, hquery, hcreate⟩ := attempted_append.1
      (show connection.Attempted server state ([⟨query, delivery⟩] ++ [⟨creation, delivery'⟩])
        state' from hattempted)
    obtain ⟨hanswer', rfl⟩ := Prod.mk.inj (hlisting.symm.trans (outcome_of_attempted hquery))
    obtain rfl := Except.ok.inj (hanswer'.trans hanswer)
    exact .inr ⟨hfind, creation, hcreation, rfl, outcome_of_attempted hcreate⟩

end Connection

namespace Store

/-- The first domain of a name. -/
def domain? (store : Store) (name : String) : Option Domain :=
  store.domains.find? fun domain => domain.name == name

/-- The first account of a name in a domain. -/
def account? (store : Store) (name domainId : String) : Option Account :=
  store.accounts.find? fun account => account.name == name && account.domainId == domainId

/-- The first user that an account of a name in a domain was named after. -/
def user? (store : Store) (name domainId : String) : Option User :=
  (store.users.find? fun entry =>
    entry.2.username == name && entry.1.name == name && entry.1.domainId == domainId).map Prod.snd

end Store

namespace Provisioning

open Connection

variable {σ : Type} {connection : Connection} {server : Server σ} {view : σ → Store}
  {attempts : List Attempt} {state state' : σ}

/-- The states between the steps of a course. -/
theorem exists_states_of_attempted {course : Course}
    (h : connection.Attempted server state course.attempts state') :
    ∃ first second third, connection.Attempted server state course.domainPart first ∧
      connection.Attempted server first course.accountPart second ∧
      connection.Attempted server second course.userPart third ∧
      connection.Attempted server third course.keysPart state' := by
  obtain ⟨first, hdomain, h⟩ := attempted_append.1 h
  obtain ⟨second, haccount, h⟩ := attempted_append.1 h
  obtain ⟨third, huser, hkeys⟩ := attempted_append.1 h
  exact ⟨first, second, third, hdomain, haccount, huser, hkeys⟩

/-- A domain is found where it is stored, or it is stored last. -/
theorem domainStep_served (h : Faithful connection server view) {name : String}
    {result : Except ClientError Domain} (hkept : domainStep connection name attempts result)
    (hattempted : connection.Attempted server state attempts state') :
    (∃ domain, (view state).domain? name = some domain ∧
        attempts.map (fun attempt => attempt.call.name) = ["listDomains"] ∧
        result = .ok domain ∧ view state' = view state) ∨
      (view state).domain? name = none ∧ ∀ domain, result = .ok domain →
        domain.name = name ∧ view state' = (view state).addDomain domain := by
  obtain ⟨count, between, hlisting, hview⟩ :=
    h.listDomains { name := some name, listAll := some true } state
  have hfind : ((view state).domains.filter
      (DomainFilter.admits { name := some name, listAll := some true })).find?
        (fun domain => domain.name == name) = (view state).domain? name := by
    rw [List.find?_filter, Store.domain?]
    refine congrArg (fun p => List.find? p _) (funext fun domain => ?_)
    rw [Bool.eq_iff_iff]
    simp [DomainFilter.admits]
  rcases findsOrCreates_served hlisting hkept hattempted with
    ⟨domain, hdomain, hnames, hresult, rfl⟩ | ⟨hnone, creation, rfl, -, hcreated⟩
  · exact .inl ⟨domain, hfind ▸ hdomain, hnames, hresult, hview⟩
  · refine .inr ⟨hfind ▸ hnone, ?_⟩
    rintro domain rfl
    obtain ⟨hname, hstored⟩ := h.createDomain hcreated
    exact ⟨hname, hview ▸ hstored⟩

/-- An account is found where it is stored, or it is stored last; it is shown as it is stored. -/
theorem accountStep_served (h : Faithful connection server view) {name : String}
    {accountType : AccountType} {domain : Domain} {result : Except ClientError Account}
    (hkept : accountStep connection name accountType domain attempts result)
    (hattempted : connection.Attempted server state attempts state') :
    (∃ stored account, (view state).account? name domain.id = some stored ∧
        Account.Shows (view state).keys stored account ∧
        attempts.map (fun attempt => attempt.call.name) = ["listAccounts"] ∧
        result = .ok account ∧ view state' = view state) ∨
      (view state).account? name domain.id = none ∧ ∀ account, result = .ok account →
        ∃ stored user, Account.Shows (view state).keys stored account ∧ stored.name = name ∧
          stored.domainId = domain.id ∧ stored.users = [user] ∧ user.username = name ∧
          (view state).keys user.id = none ∧ view state' = (view state).addAccount stored := by
  obtain ⟨listing, between, hlisting, hview, hshown⟩ :=
    h.listAccounts { name := some name, domainId := some domain.id, listAll := some true } state
  have hfind : ((view state).accounts.filter (AccountFilter.admits
      { name := some name, domainId := some domain.id, listAll := some true })).find?
        (fun account => account.name == name) = (view state).account? name domain.id := by
    rw [List.find?_filter, Store.account?]
    refine congrArg (fun p => List.find? p _) (funext fun account => ?_)
    rw [Bool.eq_iff_iff]
    simp [AccountFilter.admits]
    tauto
  have hsame : ∀ stored shown, Account.Shows (view state).keys stored shown →
      (shown.name == name) = (stored.name == name) :=
    fun _ _ hshows => congrArg (· == name) (Account.id_of_shows hshows).2.1
  rcases findsOrCreates_served hlisting hkept hattempted with
    ⟨account, haccount, hnames, hresult, rfl⟩ | ⟨hnone, creation, ⟨letters, -, rfl⟩, -, hcreated⟩
  · rcases find?_of_forall₂ hsame hshown with ⟨stored, shown, hstored, hfound, hshows⟩ | ⟨-, hnone⟩
    · obtain rfl := Option.some.inj (hfound.symm.trans haccount)
      exact .inl ⟨stored, shown, hfind ▸ hstored, hshows, hnames, hresult, hview⟩
    · exact absurd (hnone.symm.trans haccount) (by simp)
  · rcases find?_of_forall₂ hsame hshown with ⟨stored, shown, -, hfound, -⟩ | ⟨hmissing, -⟩
    · exact absurd (hfound.symm.trans hnone) (by simp)
    · refine .inr ⟨hfind ▸ hmissing, ?_⟩
      rintro account rfl
      obtain ⟨stored, user, hshows, hname, hdomain, husers, husername, hkeys, hstored⟩ :=
        h.createAccount rfl hcreated
      rw [hview] at hshows hkeys hstored
      exact ⟨stored, user, hshows, hname, hdomain, husers, husername, hkeys, hstored⟩

/-- The user that is taken is the first that an account was named after. -/
theorem userStep_served (h : Faithful connection server view) {account : Account}
    {result : Except ClientError User} (hkept : userStep connection account attempts result)
    (hattempted : connection.Attempted server state attempts state') :
    attempts.map (fun attempt => attempt.call.name) = ["listUsers"] ∧ view state' = view state ∧
      ((∃ stored user, (view state).user? account.name account.domainId = some stored ∧
          User.Shows (view state).keys stored user ∧ result = .ok user) ∨
        (view state).user? account.name account.domainId = none ∧
          result = .error (noUser account)) := by
  obtain ⟨listing, between, hlisting, hview, hshown⟩ := h.listUsers
    { username := some account.name, account := some account.name,
      domainId := some account.domainId, listAll := some true } state
  obtain ⟨delivery, rfl, hcases⟩ := userStep_cases hkept
  obtain ⟨hanswer, rfl⟩ := Prod.mk.inj (hlisting.symm.trans (outcome_of_attempted hattempted))
  refine ⟨rfl, hview, ?_⟩
  have hfind : (view state).user? account.name account.domainId =
      (((view state).users.filter (UserFilter.admits
        { username := some account.name, account := some account.name,
          domainId := some account.domainId, listAll := some true })).map Prod.snd).head? := by
    rw [Store.user?, List.head?_map, List.head?_filter]
    refine congrArg (fun p => Option.map Prod.snd (List.find? p _)) (funext fun entry => ?_)
    simp [UserFilter.admits]
  rcases hcases with ⟨error, herror, -⟩ | ⟨other, hother, hitems, hresult⟩ |
    ⟨other, first, rest, hother, hitems, hresult⟩
  · exact absurd (hanswer.trans herror) (by simp)
  · obtain rfl := Except.ok.inj (hanswer.trans hother)
    rw [hitems, List.forall₂_nil_right_iff] at hshown
    exact .inr ⟨by rw [hfind, hshown, List.head?_nil], hresult⟩
  · obtain rfl := Except.ok.inj (hanswer.trans hother)
    rw [hitems, List.forall₂_cons_right_iff] at hshown
    obtain ⟨stored, more, hshows, -, hstored⟩ := hshown
    exact .inl ⟨stored, first, by rw [hfind, hstored, List.head?_cons], hshows, hresult⟩

/-- A user keeps the pair that is stored, or gets one. -/
theorem keysStep_served (h : Faithful connection server view) {stored user : User}
    (hshows : User.Shows (view state).keys stored user) {result : Except ClientError KeyPair}
    (hkept : keysStep connection user attempts result)
    (hattempted : connection.Attempted server state attempts state') :
    (∃ pair, (view state).keys stored.id = some pair ∧
        attempts.map (fun attempt => attempt.call.name) ∈ [[], ["getUserKeys"]] ∧
        result = .ok pair ∧ view state' = view state) ∨
      (view state).keys stored.id = none ∧ ∀ pair, result = .ok pair →
        view state' = (view state).setKeys stored.id pair := by
  obtain ⟨withheld, rfl⟩ := hshows
  cases hkeys : (view state).keys stored.id with
  | some pair =>
    refine .inl ⟨pair, rfl, ?_⟩
    rcases keysStep_cases hkept with ⟨listed, hlisted, rfl, hresult⟩ |
      ⟨apiKey, delivery, -, -, rfl, rfl⟩ | ⟨delivery, hnone, -⟩
    · rw [eq_of_attempted_nil hattempted]
      cases withheld with
      | true => exact absurd hlisted (by simp [User.keyPair?, hkeys])
      | false =>
        have hpair : pair = listed := by simpa [User.keyPair?, hkeys] using hlisted
        exact ⟨List.mem_cons_self, hpair ▸ hresult, rfl⟩
    · obtain ⟨after, houtcome, hview⟩ := h.getUserKeys hkeys
      obtain ⟨hanswer, rfl⟩ := Prod.mk.inj (houtcome.symm.trans (outcome_of_attempted hattempted))
      exact ⟨by simp [Call.getUserKeys], hanswer.symm, hview⟩
    · exact absurd hnone (by simp [hkeys])
  | none =>
    refine .inr ⟨rfl, ?_⟩
    rintro pair rfl
    rcases keysStep_cases hkept with ⟨listed, hlisted, -⟩ | ⟨apiKey, delivery, hsome, -⟩ |
      ⟨delivery, -, rfl, hanswer⟩
    · exact absurd hlisted (by simp [User.keyPair?, hkeys])
    · exact absurd hsome (by simp [hkeys])
    · have houtcome := outcome_of_attempted hattempted
      rw [← hanswer] at houtcome
      exact h.registerUserKeys houtcome

end Provisioning

end ControlPlane
