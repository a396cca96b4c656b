import ControlPlane.Proofs.Transcripts
import ControlPlane.Provisioning

/-!
# Finding a user, or creating one

To provide a user, a client looks for the domain and then for the account, each by its exact name,
and creates what it does not find. It takes the first user of the account, and that user's keys as
they are listed, asked for or registered.

Looking for a record and creating it if it is missing is one protocol (`findsOrCreates`), whatever
the record; providing a user is a sequence of four (`provides`), which the client keeps to in every
world (`keepsTo_ensureUser`). What that amounts to for the commands that are sent, their arguments
and what comes of them is stated by `IsProvided`.
-/

namespace ControlPlane

namespace Connection

variable {α : Type}

/-! ## Looking for a record -/

/-- Asking for a list of records. -/
def lists (connection : Connection) (query : Call (Listing α)) : Protocol (List α) :=
  (Protocol.Calls connection query).Then fun listing => .Ends (.ok listing.items)

/-- One attempt at one of some calls. -/
def callsAny (connection : Connection) (calls : Call α → Prop) : Protocol α :=
  fun attempts result => ∃ call, calls call ∧ Protocol.Calls connection call attempts result

/-- Looking for a record in a list, and creating it if it is not there. -/
def findsOrCreates (connection : Connection) (query : Call (Listing α)) (wanted : α → Bool)
    (creations : Call α → Prop) : Protocol α :=
  (connection.lists query).Then fun records =>
    match records.find? wanted with
    | some record => .Ends (.ok record)
    | none => connection.callsAny creations

/-- A record was found in a list, or else it was created. -/
def Resolves (connection : Connection) (attempts : List Attempt) (query : Call (Listing α))
    (wanted : α → Bool) (creations : Call α → Prop) (record : α) : Prop :=
  (∃ listing, connection.Answered attempts query (.ok listing) ∧
      listing.items.find? wanted = some record) ∨
    ∃ creation, creations creation ∧ connection.Answered attempts creation (.ok record)

section

variable {connection : Connection} {query : Call (Listing α)} {wanted : α → Bool}
  {creations : Call α → Prop} {attempts : List Attempt}

theorem lists_cases {result : Except ClientError (List α)}
    (h : connection.lists query attempts result) :
    ∃ delivery, attempts = [⟨query, delivery⟩] ∧
      result = (connection.answer query delivery).map Listing.items := by
  cases h with
  | stopped hcall =>
    obtain ⟨delivery, rfl, hanswer⟩ := hcall
    exact ⟨delivery, rfl, hanswer ▸ rfl⟩
  | continued hcall hends =>
    obtain ⟨delivery, rfl, hanswer⟩ := hcall
    obtain ⟨rfl, rfl⟩ := hends
    exact ⟨delivery, rfl, hanswer ▸ rfl⟩

/-- The list is asked for once, and a record is created once if it is not there. -/
theorem findsOrCreates_cases {result : Except ClientError α}
    (h : connection.findsOrCreates query wanted creations attempts result) :
    (∃ delivery error, attempts = [⟨query, delivery⟩] ∧
        connection.answer query delivery = .error error ∧ result = .error error) ∨
      (∃ delivery listing record, attempts = [⟨query, delivery⟩] ∧
        connection.answer query delivery = .ok listing ∧
        listing.items.find? wanted = some record ∧ result = .ok record) ∨
      ∃ delivery listing creation delivery', attempts = [⟨query, delivery⟩, ⟨creation, delivery'⟩] ∧
        connection.answer query delivery = .ok listing ∧
        listing.items.find? wanted = none ∧ creations creation ∧
        result = connection.answer creation delivery' := by
  cases h with
  | stopped hlist =>
    obtain ⟨delivery, rfl, hresult⟩ := lists_cases hlist
    cases hanswer : connection.answer query delivery with
    | ok listing => exact absurd hresult (by simp [hanswer, Except.map])
    | error error =>
      rw [hanswer, Except.map, Except.error.injEq] at hresult
      exact .inl ⟨delivery, error, rfl, hanswer, hresult ▸ rfl⟩
  | continued hlist hnext =>
    obtain ⟨delivery, rfl, hresult⟩ := lists_cases hlist
    cases hanswer : connection.answer query delivery with
    | error error => exact absurd hresult (by simp [hanswer, Except.map])
    | ok listing =>
      rw [hanswer, Except.map, Except.ok.injEq] at hresult
      subst hresult
      cases hfind : listing.items.find? wanted with
      | some record =>
        rw [hfind] at hnext
        obtain ⟨rfl, rfl⟩ := hnext
        exact .inr (.inl ⟨delivery, listing, record, rfl, hanswer, hfind, rfl⟩)
      | none =>
        rw [hfind] at hnext
        obtain ⟨creation, hcreation, delivery', rfl, rfl⟩ := hnext
        exact .inr (.inr ⟨delivery, listing, creation, delivery', rfl, hanswer, hfind, hcreation,
          rfl⟩)

/-- A record is created exactly if the list was given and does not have it. -/
theorem made_creation_iff {name : String} {result : Except ClientError α}
    (hcreations : ∀ creation, creations creation → creation.name = name)
    (hquery : query.name ≠ name)
    (h : connection.findsOrCreates query wanted creations attempts result) :
    Made attempts name ↔ ∃ listing, connection.Answered attempts query (.ok listing) ∧
      ∀ record ∈ listing.items, wanted record = false := by
  rcases findsOrCreates_cases h with ⟨delivery, error, rfl, hanswer, -⟩ |
    ⟨delivery, listing, record, rfl, hanswer, hfind, -⟩ |
    ⟨delivery, listing, creation, delivery', rfl, hanswer, hfind, hcreation, -⟩
  · simp [hquery, hanswer]
  · have hwanted : ∃ record ∈ listing.items, wanted record = true :=
      ⟨record, List.mem_of_find?_eq_some hfind, List.find?_some hfind⟩
    simpa [hquery, hanswer] using hwanted
  · have hmissing : ∀ record ∈ listing.items, wanted record = false := by simpa using hfind
    simp only [made_cons, hcreations creation hcreation, true_or, or_true, true_iff]
    exact ⟨listing, (answered_cons_self ..).2 (.inl hanswer), hmissing⟩

/-- A record is resolved exactly if it is what finding or creating comes to. -/
theorem resolves_iff {name : String} {result : Except ClientError α}
    (hcreations : ∀ creation, creations creation → creation.name = name)
    (hquery : query.name ≠ name)
    (h : connection.findsOrCreates query wanted creations attempts result) (record : α) :
    connection.Resolves attempts query wanted creations record ↔ result = .ok record := by
  have hsilent : ∀ {delivery : Delivery} {creation : Call α}, creations creation →
      ¬ connection.Answered [⟨query, delivery⟩] creation (.ok record) := by
    intro delivery creation hcreation
    refine not_answered_of_not_made ?_
    simpa [hcreations creation hcreation] using hquery
  rcases findsOrCreates_cases h with ⟨delivery, error, rfl, hanswer, rfl⟩ |
    ⟨delivery, listing, found, rfl, hanswer, hfind, rfl⟩ |
    ⟨delivery, listing, creation, delivery', rfl, hanswer, hfind, hcreation, rfl⟩
  · refine iff_of_false ?_ (by simp)
    rintro (⟨listing, hlisting, -⟩ | ⟨creation, hcreation, hcreated⟩)
    · exact absurd hlisting (by simp [hanswer])
    · exact hsilent hcreation hcreated
  · rw [Except.ok.injEq]
    constructor
    · rintro (⟨listing', hlisting, hfind'⟩ | ⟨creation, hcreation, hcreated⟩)
      · obtain rfl : listing = listing' := by simpa [hanswer] using hlisting
        exact Option.some.inj (hfind.symm.trans hfind')
      · exact absurd hcreated (hsilent hcreation)
    · rintro rfl
      exact .inl ⟨listing, (answered_cons_self ..).2 (.inl hanswer), hfind⟩
  · constructor
    · rintro (⟨listing', hlisting, hfind'⟩ | ⟨creation', hcreation', hcreated⟩)
      · have hlater : ¬ connection.Answered [⟨creation, delivery'⟩] query (.ok listing') :=
          not_answered_of_not_made (by simpa [hcreations creation hcreation] using hquery.symm)
        obtain rfl : listing = listing' := by simpa [hanswer, hlater] using hlisting
        exact absurd hfind' (by simp [hfind])
      · rw [answered_cons_of_ne (by simpa [hcreations creation' hcreation'] using hquery)]
          at hcreated
        obtain ⟨delivery'', hmem, hcreated⟩ := hcreated
        cases List.mem_singleton.1 hmem
        exact hcreated
    · intro hresult
      exact .inr ⟨creation, hcreation, delivery', by simp, hresult⟩

theorem resolves_iff_of_allIn {names : List String} {part : List Attempt}
    (h : AllIn names part attempts) (hquery : query.name ∈ names)
    (hcreations : ∀ creation, creations creation → creation.name ∈ names) (record : α) :
    connection.Resolves attempts query wanted creations record ↔
      connection.Resolves part query wanted creations record := by
  have hlisted := answered_iff_of_allIn connection h hquery
  have hcreated : ∀ creation, creations creation →
      (connection.Answered attempts creation (.ok record) ↔
        connection.Answered part creation (.ok record)) :=
    fun creation hcreation => answered_iff_of_allIn connection h (hcreations creation hcreation) _
  simp only [Resolves, hlisted]
  exact or_congr_right (exists_congr fun creation => and_congr_right (hcreated creation))

/-- The attempts are at the list, or at the list and a creation. -/
theorem names_findsOrCreates {name : String} {result : Except ClientError α}
    (hcreations : ∀ creation, creations creation → creation.name = name)
    (h : connection.findsOrCreates query wanted creations attempts result) :
    ∃ created ∈ [[], [name]],
      attempts.map (fun attempt => attempt.call.name) = query.name :: created := by
  rcases findsOrCreates_cases h with ⟨delivery, error, rfl, -⟩ |
    ⟨delivery, listing, record, rfl, -⟩ |
    ⟨delivery, listing, creation, delivery', rfl, -, -, hcreation, -⟩
  · exact ⟨[], by simp, rfl⟩
  · exact ⟨[], by simp, rfl⟩
  · exact ⟨[name], by simp, by simp [hcreations creation hcreation]⟩

theorem namesIn_lists (connection : Connection) (query : Call (Listing α)) :
    (connection.lists query).NamesIn [query.name] := by
  intro attempts result h attempt hattempt
  obtain ⟨delivery, rfl, -⟩ := lists_cases h
  rw [List.mem_singleton.1 hattempt]
  exact List.mem_singleton_self _

theorem namesIn_findsOrCreates {name : String}
    (hcreations : ∀ creation, creations creation → creation.name = name) :
    (connection.findsOrCreates query wanted creations).NamesIn ([query.name] ++ [name]) := by
  refine Protocol.namesIn_then (namesIn_lists connection query) ?_
  intro records
  cases records.find? wanted with
  | some record => exact Protocol.namesIn_ends _ _
  | none =>
    rintro attempts result ⟨creation, hcreation, hcreated⟩
    exact Protocol.namesIn_calls connection (by simp [hcreations creation hcreation]) hcreated

theorem stopsAt_lists (connection : Connection) (counts : ClientError → Prop)
    (query : Call (Listing α)) : (connection.lists query).StopsAt connection counts :=
  Protocol.stopsAt_then (Protocol.stopsAt_calls connection counts query)
    fun _ => Protocol.stopsAt_ends connection counts _

theorem stopsAt_findsOrCreates (connection : Connection) (counts : ClientError → Prop)
    (query : Call (Listing α)) (wanted : α → Bool) (creations : Call α → Prop) :
    (connection.findsOrCreates query wanted creations).StopsAt connection counts := by
  refine Protocol.stopsAt_then (stopsAt_lists connection counts query) ?_
  intro records
  cases records.find? wanted with
  | some record => exact Protocol.stopsAt_ends connection counts _
  | none =>
    rintro attempts result ⟨creation, -, hcreated⟩
    exact Protocol.stopsAt_calls connection counts creation hcreated

theorem blames_lists (connection : Connection) (own : ClientError → Prop)
    (query : Call (Listing α)) : (connection.lists query).Blames connection own :=
  Protocol.blames_then (Protocol.blames_calls connection own query)
    fun _ => Protocol.blames_ends connection (by simp)

theorem blames_findsOrCreates (connection : Connection) (own : ClientError → Prop)
    (query : Call (Listing α)) (wanted : α → Bool) (creations : Call α → Prop) :
    (connection.findsOrCreates query wanted creations).Blames connection own := by
  refine Protocol.blames_then (blames_lists connection own query) ?_
  intro records
  cases records.find? wanted with
  | some record => exact Protocol.blames_ends connection (by simp)
  | none =>
    rintro attempts error ⟨creation, -, hcreated⟩
    exact Protocol.blames_calls connection own creation hcreated

theorem keepsTo_lists (connection : Connection) {query : Call (Listing α)}
    (hquery : query.isAsync = false) :
    connection.KeepsTo (do let listing ← connection.execute query; return listing.items)
      (connection.lists query) :=
  keepsTo_bind (keepsTo_execute connection hquery) fun _ => keepsTo_pure connection _

theorem keepsTo_findsOrCreates {listing : Action (List α)} {next : List α → Action α}
    (hlisting : connection.KeepsTo listing (connection.lists query))
    (hfound : ∀ records record, records.find? wanted = some record → next records = pure record)
    (hmissing : ∀ records, records.find? wanted = none →
      connection.KeepsTo (next records) (connection.callsAny creations)) :
    connection.KeepsTo (listing >>= next) (connection.findsOrCreates query wanted creations) := by
  refine keepsTo_bind hlisting ?_
  intro records
  cases hfind : records.find? wanted with
  | some record =>
    rw [hfound records record hfind]
    exact keepsTo_pure connection record
  | none => exact hmissing records hfind

end

end Connection

namespace Provisioning

open Connection

/-! ## The calls -/

/-- Asking for the domains of a name. -/
def domainQuery (name : String) : Call (Listing Domain) :=
  DomainFilter.call { name := some name, listAll := some true }

/-- Creating a domain of a name, without a parent. -/
def domainCreation (name : String) : Call Domain :=
  NewDomain.call { name, parentId := none }

/-- Asking for the accounts of a name in a domain. -/
def accountQuery (name domainId : String) : Call (Listing Account) :=
  AccountFilter.call { name := some name, domainId := some domainId, listAll := some true }

/-- Creating an account of a name in a domain, with six letters in its mail address. -/
def CreatesAccount (name : String) (domain : Domain) (accountType : AccountType)
    (creation : Call Account) : Prop :=
  ∃ letters : List Char, letters.length = 6 ∧
    creation = (newAccount name domain accountType letters).call

/-- Asking for the users that an account was named after. -/
def userQuery (account : Account) : Call (Listing User) :=
  UserFilter.call
    { username := some account.name, account := some account.name,
      domainId := some account.domainId, listAll := some true }

@[simp] theorem domainQuery_name (name : String) : (domainQuery name).name = "listDomains" := rfl

@[simp] theorem domainCreation_name (name : String) :
    (domainCreation name).name = "createDomain" := rfl

@[simp] theorem accountQuery_name (name domainId : String) :
    (accountQuery name domainId).name = "listAccounts" := rfl

@[simp] theorem userQuery_name (account : Account) : (userQuery account).name = "listUsers" := rfl

theorem name_of_eq_domainCreation {name : String} {creation : Call Domain}
    (h : creation = domainCreation name) : creation.name = "createDomain" := by
  rw [h, domainCreation_name]

theorem name_of_createsAccount {name : String} {domain : Domain} {accountType : AccountType}
    {creation : Call Account} (h : CreatesAccount name domain accountType creation) :
    creation.name = "createAccount" := by
  obtain ⟨letters, -, rfl⟩ := h
  rfl

/-! ## The steps -/

/-- Finding a domain or creating it. -/
def domainStep (connection : Connection) (name : String) : Protocol Domain :=
  connection.findsOrCreates (domainQuery name) (fun domain => domain.name == name)
    (· = domainCreation name)

/-- Finding an account or creating it. -/
def accountStep (connection : Connection) (name : String) (accountType : AccountType)
    (domain : Domain) : Protocol Account :=
  connection.findsOrCreates (accountQuery name domain.id) (fun account => account.name == name)
    (CreatesAccount name domain accountType)

/-- Taking the first user of an account. -/
def userStep (connection : Connection) (account : Account) : Protocol User :=
  (connection.lists (userQuery account)).Then fun users =>
    match users with
    | user :: _ => .Ends (.ok user)
    | [] => .Ends (.error (noUser account))

/-- Taking the keys of a user as they are listed, or else asking for them, or registering them. -/
def keysStep (connection : Connection) (user : User) : Protocol KeyPair :=
  match user.keyPair? with
  | some keys => .Ends (.ok keys)
  | none =>
    if user.apiKey.isSome then .Calls connection (.getUserKeys user.id)
    else .Calls connection (.registerUserKeys user.id)

/-- Providing a user. -/
def provides (connection : Connection) (accountName domainName : String)
    (accountType : AccountType) : Protocol UserCredentials :=
  (domainStep connection domainName).Then fun domain =>
    (accountStep connection accountName accountType domain).Then fun account =>
      (userStep connection account).Then fun user =>
        (keysStep connection user).Then fun keys => .Ends (.ok { domain, account, user, keys })

theorem keepsTo_ensureDomain (client : Client) (name : String) :
    client.connection.KeepsTo (ensureDomain client name) (domainStep client.connection name) := by
  refine keepsTo_findsOrCreates (keepsTo_lists client.connection rfl) ?_ ?_
  · intro records record hfind
    simp only [hfind]
  · intro records hfind σ world
    obtain ⟨attempts, result, world', hconducts, hcalls⟩ := keepsTo_execute client.connection
      (show (domainCreation name).isAsync = false from rfl) σ world
    simp only [hfind]
    exact ⟨attempts, result, world', hconducts, _, rfl, hcalls⟩

/-- An account that is missing is created with letters that were drawn. -/
theorem keepsTo_ensureAccount_of_draws (client : Client) (name : String) (domain : Domain)
    (accountType : AccountType) {creations : Call Account → Prop}
    (hcreations : ∀ draws : List (Fin 62), draws.length = 6 →
      creations (newAccount name domain accountType (draws.map Dialogue.letter)).call) :
    client.connection.KeepsTo (ensureAccount client name domain accountType)
      (client.connection.findsOrCreates (accountQuery name domain.id)
        (fun account => account.name == name) creations) := by
  refine keepsTo_findsOrCreates (keepsTo_lists client.connection rfl) ?_ ?_
  · intro records record hfind
    simp only [hfind]
  · intro records hfind σ world
    obtain ⟨draws, world', hlength, hletters⟩ :=
      exists_conducts_letters client.connection 6 world
    obtain ⟨attempts, result, world'', hconducts, hcalls⟩ := keepsTo_execute client.connection
      (show (newAccount name domain accountType (draws.map Dialogue.letter)).call.isAsync = false
        from rfl) σ world'
    simp only [hfind]
    exact ⟨attempts, result, world'', conducts_bind_ok hletters hconducts, _,
      hcreations draws hlength, hcalls⟩

theorem keepsTo_ensureAccount (client : Client) (name : String) (domain : Domain)
    (accountType : AccountType) :
    client.connection.KeepsTo (ensureAccount client name domain accountType)
      (accountStep client.connection name accountType domain) :=
  keepsTo_ensureAccount_of_draws client name domain accountType fun draws hlength =>
    ⟨draws.map Dialogue.letter, by rw [List.length_map, hlength], rfl⟩

theorem keepsTo_findUser (client : Client) (account : Account) :
    client.connection.KeepsTo (findUser client account) (userStep client.connection account) := by
  refine keepsTo_bind (keepsTo_lists client.connection rfl) ?_
  intro users
  cases users with
  | cons user rest => exact keepsTo_pure client.connection user
  | nil => exact keepsTo_throw client.connection (noUser account)

theorem keepsTo_ensureKeys (client : Client) (user : User) :
    client.connection.KeepsTo (ensureKeys client user) (keysStep client.connection user) := by
  rw [ensureKeys, keysStep]
  cases user.keyPair? with
  | some keys => exact keepsTo_pure client.connection keys
  | none =>
    cases user.apiKey.isSome with
    | true => exact keepsTo_execute client.connection rfl
    | false => exact keepsTo_execute client.connection rfl

/-- In every world, providing a user takes the four steps. -/
theorem keepsTo_ensureUser (client : Client) (accountName domainName : String)
    (accountType : AccountType) :
    client.connection.KeepsTo (ensureUser client accountName domainName accountType)
      (provides client.connection accountName domainName accountType) :=
  keepsTo_bind (keepsTo_ensureDomain client domainName) fun domain =>
    keepsTo_bind (keepsTo_ensureAccount client accountName domain accountType) fun account =>
      keepsTo_bind (keepsTo_findUser client account) fun user =>
        keepsTo_bind (keepsTo_ensureKeys client user) fun _ => keepsTo_pure client.connection _

end Provisioning

end ControlPlane
