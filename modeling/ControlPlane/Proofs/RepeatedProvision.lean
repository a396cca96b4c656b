import ControlPlane.Proofs.SmallControlPlane
import Mathlib.Data.List.Nodup

/-!
# Providing a user again

Once a user was provided on a faithful control plane, everything that it takes is stored there
(`Prepared`), whether it was found or created. Providing the user again finds all of it: nothing is
created any more, and the user, the account, the domain and the keys are the same.

Main statement: `ensureUser_repeated`.
-/

namespace ControlPlane.Provisioning

open Connection

variable {σ : Type} {connection : Connection} {server : Server σ} {view : σ → Store}
  {accountName domainName : String} {accountType : AccountType}

/-- Everything behind the user of an account is stored. -/
structure Prepared (store : Store) (accountName domainName : String) (domain : Domain)
    (account : Account) (user : User) (keys : KeyPair) : Prop where
  findsDomain : store.domain? domainName = some domain
  findsAccount : store.account? accountName domain.id = some account
  findsUser : store.user? account.name account.domainId = some user
  findsKeys : store.keys user.id = some keys

/-- What is provided is what is stored. -/
structure IsOf (credentials : UserCredentials) (domain : Domain) (account : Account) (user : User)
    (keys : KeyPair) : Prop where
  sameDomain : credentials.domain = domain
  sameAccount : credentials.account.id = account.id
  sameUser : credentials.user.id = user.id
  sameKeys : credentials.keys = keys

/-- A store has grown by one domain, one account and one key pair at most. -/
structure GrownBy (store store' : Store) : Prop where
  domains : ∃ more, store'.domains = store.domains ++ more ∧ more.length ≤ 1
  accounts : ∃ more, store'.accounts = store.accounts ++ more ∧ more.length ≤ 1
  keys : store'.keys = store.keys ∨
    ∃ userId pair, store.keys userId = none ∧
      store'.keys = Function.update store.keys userId (some pair)

/-! ## What a step leaves -/

section

variable {attempts : List Attempt} {state state' : σ}

theorem domain?_of_domainStep (h : Faithful connection server view) {domain : Domain}
    (hkept : domainStep connection domainName attempts (.ok domain))
    (hattempted : connection.Attempted server state attempts state') :
    (view state').domain? domainName = some domain ∧ ∃ more : List Domain, more.length ≤ 1 ∧
      view state' = { view state with domains := (view state).domains ++ more } := by
  rcases domainStep_served h hkept hattempted with ⟨found, hfound, -, hresult, hview⟩ |
    ⟨hnone, hcreated⟩
  · obtain rfl := Except.ok.inj hresult
    exact ⟨hview ▸ hfound, [], by simp, by simp [hview]⟩
  · obtain ⟨hname, hview⟩ := hcreated domain rfl
    refine ⟨?_, [domain], by simp, hview⟩
    rw [hview, Store.domain?, Store.addDomain, List.find?_append]
    rw [Store.domain?] at hnone
    simp [hnone, hname]

theorem account?_of_accountStep (h : Faithful connection server view) {domain : Domain}
    {account : Account}
    (hkept : accountStep connection accountName accountType domain attempts (.ok account))
    (hattempted : connection.Attempted server state attempts state') :
    (∃ stored, (view state').account? accountName domain.id = some stored ∧
        Account.Shows (view state).keys stored account) ∧
      ∃ more : List Account, more.length ≤ 1 ∧
        view state' = { view state with accounts := (view state).accounts ++ more } := by
  rcases accountStep_served h hkept hattempted with
    ⟨stored, shown, hfound, hshows, -, hresult, hview⟩ | ⟨hnone, hcreated⟩
  · obtain rfl := Except.ok.inj hresult
    exact ⟨⟨stored, hview ▸ hfound, hshows⟩, [], by simp, by simp [hview]⟩
  · obtain ⟨stored, user, hshows, hname, hdomain, -, -, -, hview⟩ := hcreated account rfl
    refine ⟨⟨stored, ?_, hshows⟩, [stored], by simp, hview⟩
    rw [hview, Store.account?, Store.addAccount, List.find?_append]
    rw [Store.account?] at hnone
    simp [hnone, hname, hdomain]

theorem keys_of_keysStep (h : Faithful connection server view) {stored user : User}
    (hshows : User.Shows (view state).keys stored user) {keys : KeyPair}
    (hkept : keysStep connection user attempts (.ok keys))
    (hattempted : connection.Attempted server state attempts state') :
    (view state').keys stored.id = some keys ∧ (view state' = view state ∨
      (view state).keys stored.id = none ∧ view state' = (view state).setKeys stored.id keys) := by
  rcases keysStep_served h hshows hkept hattempted with ⟨pair, hpair, -, hresult, hview⟩ |
    ⟨hnone, hregistered⟩
  · obtain rfl := Except.ok.inj hresult
    exact ⟨hview ▸ hpair, .inl hview⟩
  · have hview := hregistered keys rfl
    exact ⟨by simp [hview, Store.setKeys], .inr ⟨hnone, hview⟩⟩

end

/-! ## Twice -/

/-- After a user was provided, everything behind it is stored. -/
theorem prepared_of_provided (h : Faithful connection server view) {course : Course}
    (hcourse : course.Follows connection accountName domainName accountType)
    {credentials : UserCredentials} (hresult : course.result = .ok credentials)
    {state state' : σ} (hattempted : connection.Attempted server state course.attempts state') :
    GrownBy (view state) (view state') ∧ ∃ domain account user keys,
      Prepared (view state') accountName domainName domain account user keys ∧
        IsOf credentials domain account user keys := by
  obtain ⟨hdomain, haccount, huser, hkeys⟩ := Course.result_eq_ok hresult
  obtain ⟨first, second, third, hfirst, hsecond, hthird, hfourth⟩ :=
    exists_states_of_attempted hattempted
  obtain ⟨hdomainStep, haccountStep, huserStep, hkeysStep⟩ := hcourse
  rw [hdomain] at hdomainStep haccountStep
  rw [haccount] at haccountStep huserStep
  rw [huser] at huserStep hkeysStep
  rw [hkeys] at hkeysStep
  obtain ⟨hfoundDomain, domains, hdomains, hviewFirst⟩ := domain?_of_domainStep h hdomainStep hfirst
  obtain ⟨⟨account, hfoundAccount, hshowsAccount⟩, accounts, haccounts, hviewSecond⟩ :=
    account?_of_accountStep h haccountStep hsecond
  obtain ⟨hid, hname, hdomainId⟩ := Account.id_of_shows hshowsAccount
  obtain ⟨-, hviewThird, htaken⟩ := userStep_served h huserStep hthird
  rcases htaken with ⟨user, shown, hfoundUser, hshowsUser, hshown⟩ | ⟨-, hnone⟩
  · obtain rfl := Except.ok.inj hshown
    rw [← hviewThird] at hshowsUser
    obtain ⟨hfoundKeys, hviewFourth⟩ := keys_of_keysStep h hshowsUser hkeysStep hfourth
    have hdomainsStored : (view state').domains = (view first).domains := by
      rcases hviewFourth with hview | ⟨-, hview⟩
      · rw [hview, hviewThird, hviewSecond]
      · rw [hview, Store.setKeys, hviewThird, hviewSecond]
    have haccountsStored : (view state').accounts = (view second).accounts := by
      rcases hviewFourth with hview | ⟨-, hview⟩
      · rw [hview, hviewThird]
      · rw [hview, Store.setKeys, hviewThird]
    have hkeysBefore : (view third).keys = (view state).keys := by
      rw [hviewThird, hviewSecond, hviewFirst]
    refine ⟨⟨⟨domains, ?_, hdomains⟩, ⟨accounts, ?_, haccounts⟩, ?_⟩, credentials.domain, account,
      user, credentials.keys, ⟨?_, ?_, ?_, hfoundKeys⟩,
      ⟨rfl, hid, User.id_of_shows hshowsUser, rfl⟩⟩
    · rw [hdomainsStored, hviewFirst]
    · rw [haccountsStored, hviewSecond, hviewFirst]
    · rcases hviewFourth with hview | ⟨hnone, hview⟩
      · exact .inl (by rw [hview, hkeysBefore])
      · rw [hkeysBefore] at hnone
        exact .inr ⟨user.id, credentials.keys, hnone, by rw [hview, Store.setKeys, hkeysBefore]⟩
    · rw [Store.domain?, hdomainsStored]
      exact hfoundDomain
    · rw [Store.account?, haccountsStored]
      exact hfoundAccount
    · rw [Store.user?, Store.users, haccountsStored, ← hname, ← hdomainId]
      exact hfoundUser
  · exact absurd hnone (by simp)

/-- If everything behind a user is stored, providing it finds all of it and changes nothing. -/
theorem again_of_prepared (h : Faithful connection server view) {course : Course}
    (hcourse : course.Follows connection accountName domainName accountType) {state state' : σ}
    (hattempted : connection.Attempted server state course.attempts state') {domain : Domain}
    {account : Account} {user : User} {keys : KeyPair}
    (hprepared : Prepared (view state) accountName domainName domain account user keys) :
    view state' = view state ∧
      course.attempts.map (fun attempt => attempt.call.name) ∈
        [["listDomains", "listAccounts", "listUsers"],
          ["listDomains", "listAccounts", "listUsers", "getUserKeys"]] ∧
      ∃ credentials, course.result = .ok credentials ∧
        IsOf credentials domain account user keys := by
  obtain ⟨first, second, third, hfirst, hsecond, hthird, hfourth⟩ :=
    exists_states_of_attempted hattempted
  obtain ⟨hdomainStep, haccountStep, huserStep, hkeysStep⟩ := hcourse
  rcases domainStep_served h hdomainStep hfirst with
    ⟨found, hfound, hdomainNames, hdomain, hviewFirst⟩ | ⟨hnone, -⟩
  swap
  · exact absurd (hnone.symm.trans hprepared.findsDomain) (by simp)
  obtain rfl := Option.some.inj (hfound.symm.trans hprepared.findsDomain)
  rw [hdomain] at haccountStep
  rcases accountStep_served h haccountStep hsecond with
    ⟨stored, shown, hstored, hshowsAccount, haccountNames, haccount, hviewSecond⟩ | ⟨hnone, -⟩
  swap
  · rw [hviewFirst] at hnone
    exact absurd (hnone.symm.trans hprepared.findsAccount) (by simp)
  rw [hviewFirst] at hstored hviewSecond
  obtain rfl := Option.some.inj (hstored.symm.trans hprepared.findsAccount)
  obtain ⟨hid, hname, hdomainId⟩ := Account.id_of_shows hshowsAccount
  rw [haccount] at huserStep
  obtain ⟨huserNames, hviewThird, htaken⟩ := userStep_served h huserStep hthird
  rw [hname, hdomainId, hviewSecond] at htaken
  rcases htaken with ⟨taken, listed, htaken, hshowsUser, huser⟩ | ⟨hnone, -⟩
  swap
  · exact absurd (hnone.symm.trans hprepared.findsUser) (by simp)
  obtain rfl := Option.some.inj (htaken.symm.trans hprepared.findsUser)
  rw [hviewSecond] at hviewThird
  rw [← hviewThird] at hshowsUser
  rw [huser] at hkeysStep
  rcases keysStep_served h hshowsUser hkeysStep hfourth with
    ⟨pair, hpair, hkeysNames, hkeys, hviewFourth⟩ | ⟨hnone, -⟩
  swap
  · rw [hviewThird] at hnone
    exact absurd (hnone.symm.trans hprepared.findsKeys) (by simp)
  rw [hviewThird] at hpair hviewFourth
  obtain rfl := Option.some.inj (hpair.symm.trans hprepared.findsKeys)
  refine ⟨hviewFourth, ?_, ⟨found, shown, listed, pair⟩, ?_,
    ⟨rfl, hid, User.id_of_shows hshowsUser, rfl⟩⟩
  · rw [List.mem_pair] at hkeysNames
    rcases hkeysNames with hkeysNames | hkeysNames
    · simp [Course.attempts, hdomainNames, haccountNames, huserNames, hkeysNames]
    · simp [Course.attempts, hdomainNames, haccountNames, huserNames, hkeysNames]
  · rw [Course.result, hdomain, haccount, huser, hkeys]
    rfl

/-- The number of attempts at calls of a name. -/
def timesMade (attempts : List Attempt) (name : String) : Nat :=
  (attempts.map fun attempt => attempt.call.name).count name

/-- A user that was provided on a faithful control plane is found when it is provided again: only
lists and keys are asked for, nothing changes, and domain, account, user and keys are the same. -/
theorem ensureUser_repeated (client : Client) (server : Server σ) (view : σ → Store)
    (h : Faithful client.connection server view) (accountName domainName : String)
    (accountType accountType' : AccountType) {world world' : World σ}
    (hserves : world.Serves server) {credentials : UserCredentials}
    (hfirst : (ensureUser client accountName domainName accountType).run world =
      (some (.ok credentials), world')) :
    ∃ first again second world'',
      client.connection.Conducts
        (ExceptT.run (ensureUser client accountName domainName accountType)) world first
        (.ok credentials) world' ∧
      client.connection.Conducts
        (ExceptT.run (ensureUser client accountName domainName accountType')) world' second
        (.ok again) world'' ∧
      second.map (fun attempt => attempt.call.name) ∈
        [["listDomains", "listAccounts", "listUsers"],
          ["listDomains", "listAccounts", "listUsers", "getUserKeys"]] ∧
      view world''.state = view world'.state ∧
      again.domain.id = credentials.domain.id ∧ again.account.id = credentials.account.id ∧
      again.user.id = credentials.user.id ∧ again.keys = credentials.keys ∧
      (∀ name ∈ ["createDomain", "createAccount", "registerUserKeys"],
        timesMade (first ++ second) name ≤ 1) ∧
      GrownBy (view world.state) (view world''.state) := by
  obtain ⟨first, result, after, hconducts, hprovides⟩ :=
    keepsTo_ensureUser client accountName domainName accountType σ world
  obtain ⟨hresult, rfl⟩ := Prod.mk.inj (hconducts.run.symm.trans hfirst)
  obtain rfl := Option.some.inj hresult
  have hprovided := isProvided_of_provides hprovides
  obtain ⟨second, result', world'', hconducts', hprovides'⟩ :=
    keepsTo_ensureUser client accountName domainName accountType' σ after
  obtain ⟨hattempted, hserves'⟩ := attempted_of_conducts hconducts hserves
  obtain ⟨hattempted', -⟩ := attempted_of_conducts hconducts' hserves'
  obtain ⟨course, hcourse, rfl, hcourseResult⟩ := exists_course hprovides
  obtain ⟨course', hcourse', rfl, rfl⟩ := exists_course hprovides'
  obtain ⟨hgrown, domain, account, user, keys, hprepared, hof⟩ :=
    prepared_of_provided h hcourse hcourseResult hattempted
  obtain ⟨hview, hnames, again, hagain, hof'⟩ :=
    again_of_prepared h hcourse' hattempted' hprepared
  refine ⟨course.attempts, again, course'.attempts, world'', hconducts, hagain ▸ hconducts', hnames,
    hview, ?_, ?_, ?_, ?_, ?_, hview ▸ hgrown⟩
  · rw [hof'.sameDomain, hof.sameDomain]
  · rw [hof'.sameAccount, hof.sameAccount]
  · rw [hof'.sameUser, hof.sameUser]
  · rw [hof'.sameKeys, hof.sameKeys]
  · intro name hname
    have hsecond : ∀ names ∈ [["listDomains", "listAccounts", "listUsers"],
        ["listDomains", "listAccounts", "listUsers", "getUserKeys"]],
        ∀ name ∈ ["createDomain", "createAccount", "registerUserKeys"], names.count name = 0 := by
      decide
    rw [timesMade, List.map_append, List.count_append, hsecond _ hnames name hname]
    exact List.nodup_iff_count_le_one.1 hprovided.once name

/-- On a small control plane, the user that was created first is found next. -/
theorem exists_repeated_provision :
    Faithful SmallControlPlane.connection SmallControlPlane.server SmallControlPlane.view ∧
      SmallControlPlane.world.Serves SmallControlPlane.server ∧
      ∃ credentials world' again world'',
        (ensureUser SmallControlPlane.client "alice" "dept" .normal).run SmallControlPlane.world =
          (some (.ok credentials), world') ∧
        (ensureUser SmallControlPlane.client "alice" "dept" .domainAdmin).run world' =
          (some (.ok again), world'') ∧
        SmallControlPlane.view world''.state = SmallControlPlane.view world'.state ∧
        again.user.id = "u-1" ∧ again.keys = SmallControlPlane.pair := by
  obtain ⟨world', hfirst, -⟩ := SmallControlPlane.ensureUser_run .normal
  obtain ⟨_, again, _, world'', -, hsecond, -, hview, -, -, huser, hkeys, -⟩ :=
    ensureUser_repeated SmallControlPlane.client SmallControlPlane.server SmallControlPlane.view
      SmallControlPlane.faithful_server "alice" "dept" .normal .domainAdmin
      SmallControlPlane.serves_world hfirst
  exact ⟨SmallControlPlane.faithful_server, SmallControlPlane.serves_world, _, world', again,
    world'', hfirst, hsecond.run, hview, huser, hkeys⟩

end ControlPlane.Provisioning
