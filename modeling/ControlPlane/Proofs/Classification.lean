import ControlPlane.Privilege
import ControlPlane.Proofs.ReplyRules
import ControlPlane.Proofs.Transcripts

/-!
# What a classification rests on

A probe puts one question at most, and its verdict is read off the answer: a tier, no tier, or an
error (`Probe.Consults`). A classification is a list of consultations, in the order of the probes;
each but the last could not tell, and the last one decides (`Classifier.Classifies`).

A tier is thus never made up. `Classifier.Evidence` says which answers speak for which tier, and
`Classifier.IsClassified` what a classification comes to; an error that is no refusal ends it and
is passed on as it is.

Main statement: whatever the server does, classifying is this (`classify_isClassified`).
-/

namespace ControlPlane

/-! ## Refusals -/

/-- The error of a code is a refusal of its command by that code, or no refusal. -/
theorem ClientError.ofCode_cases (command : String) (code : Nat) (reason : String) :
    (code ∈ refusals ∧ ofCode command code reason = .unauthorized command code reason) ∨
      (ofCode command code reason).isAuthorizationFailure = false := by
  by_cases hcode : code ∈ refusals
  · exact .inl ⟨hcode, by simp [ofCode, hcode]⟩
  · exact .inr (by simp [ofCode, hcode, isAuthorizationFailure])

theorem Envelope.unauthorized_of_decode {command : String} {status : Nat} {text : String}
    {error : ClientError} (h : decode command status text = .error error)
    (herror : error.isAuthorizationFailure = true) :
    ∃ code ∈ ClientError.refusals, ∃ reason, error = .unauthorized command code reason := by
  rcases error_of_decode h with ⟨code, reason, rfl⟩ | ⟨reason, rfl⟩
  · rcases ClientError.ofCode_cases command code reason with ⟨hmem, hrefused⟩ | hother
    · exact ⟨code, hmem, reason, hrefused⟩
    · exact absurd (herror.symm.trans hother) (by simp)
  · exact absurd herror (by simp [ClientError.isAuthorizationFailure])

namespace Connection

variable {σ α : Type}

/-- Only a reply refuses a call, and it refuses that call. -/
theorem unauthorized_of_answer {connection : Connection} {call : Call α} {delivery : Delivery}
    {error : ClientError} (h : connection.answer call delivery = .error error)
    (herror : error.isAuthorizationFailure = true) :
    ∃ code ∈ ClientError.refusals, ∃ reason, error = .unauthorized call.name code reason := by
  have hother : ∀ {other : ClientError}, other = error →
      other.isAuthorizationFailure = false →
      ∃ code ∈ ClientError.refusals, ∃ reason, error = .unauthorized call.name code reason := by
    rintro other rfl hother
    exact absurd (herror.symm.trans hother) (by simp)
  rw [answer] at h
  cases hreply : connection.reply call.toCommand delivery with
  | ok body =>
    rw [hreply] at h
    cases hdecode : call.decode body with
    | ok value => exact absurd h (by simp [decoded, hdecode])
    | error fault =>
      simp only [hdecode, decoded, Except.error.injEq] at h
      exact hother h rfl
  | error other =>
    rw [hreply] at h
    obtain rfl := Except.error.inj h
    rw [reply] at hreply
    split at hreply
    · exact hother (Except.error.inj hreply) rfl
    · cases delivery with
      | reply status body => exact Envelope.unauthorized_of_decode hreply herror
      | late => exact hother (Except.error.inj hreply) rfl
      | failed failure => exact hother (Except.error.inj hreply) rfl

end Connection

namespace Probe

open Connection

variable {σ α : Type}

/-- What a result is to an action whose refusal stands for a value. -/
def excused (value : α) : Except ClientError α → Except ClientError α
  | .ok a => .ok a
  | .error error => if error.isAuthorizationFailure then .ok value else .error error

/-- Asking for all accounts. -/
def ownQuery : Call (Listing Account) :=
  AccountFilter.call {}

/-- Asking for the domains of the root's name. -/
def rootQuery : Call (Listing Domain) :=
  DomainFilter.call { name := some Domain.rootName }

/-- What the answer about accounts says of the caller. -/
def ownVerdict (apiKey : String) (answer : Except ClientError (Listing Account)) :
    Except ClientError (Option PrivilegeTier) :=
  excused none ((answer.map Listing.items).map (ownTier? apiKey))

/-- What the answer about domains says of the caller. -/
def rootVerdict (answer : Except ClientError (Listing Domain)) :
    Except ClientError (Option PrivilegeTier) :=
  excused (some .user) ((answer.map Listing.items).map fun domains => some (tierOfDomains domains))

/-- What a probe asks, and how it reads the answer. -/
inductive Consults (connection : Connection) : Probe → Protocol (Option PrivilegeTier)
  | unsigned (h : connection.apiKey? = none) : Consults connection .accountType [] (.ok none)
  | ownAccount {apiKey : String} (h : connection.apiKey? = some apiKey) (delivery : Delivery) :
    Consults connection .accountType [⟨ownQuery, delivery⟩]
      (ownVerdict apiKey (connection.answer ownQuery delivery))
  | rootDomain (delivery : Delivery) :
    Consults connection .rootDomain [⟨rootQuery, delivery⟩]
      (rootVerdict (connection.answer rootQuery delivery))

theorem conducts_orIfRefused {connection : Connection} {action : Action α}
    {world world' : World σ} {attempts : List Attempt} {result : Except ClientError α}
    (h : connection.Conducts (ExceptT.run action) world attempts result world') (value : α) :
    connection.Conducts (ExceptT.run (orIfRefused action value)) world attempts
      (excused value result) world' := by
  rw [← List.append_nil attempts]
  refine conducts_bind h ?_
  cases result with
  | ok a => exact conducts_done connection _ world'
  | error error =>
    simp only [excused]
    cases error.isAuthorizationFailure with
    | true => exact conducts_done connection _ world'
    | false => exact conducts_done connection _ world'

/-- A probe puts its question, if it has one, and reads the answer. -/
theorem keepsTo_ask (client : Client) (probe : Probe) :
    client.connection.KeepsTo (probe.ask client) (Consults client.connection probe) := by
  intro σ world
  cases probe with
  | accountType =>
    rw [ask]
    cases hkey : client.connection.apiKey? with
    | none =>
      exact ⟨[], .ok none, world, conducts_pure client.connection none world, .unsigned hkey⟩
    | some apiKey =>
      obtain ⟨delivery, world', hconducts⟩ :=
        exists_conducts_execute client.connection (show ownQuery.isAsync = false from rfl) world
      have hlisted := conducts_map (conducts_map hconducts Listing.items) (ownTier? apiKey)
      exact ⟨_, _, world', conducts_orIfRefused hlisted none, .ownAccount hkey delivery⟩
  | rootDomain =>
    obtain ⟨delivery, world', hconducts⟩ :=
      exists_conducts_execute client.connection (show rootQuery.isAsync = false from rfl) world
    have hlisted := conducts_map (conducts_map hconducts Listing.items)
      fun domains => some (tierOfDomains domains)
    exact ⟨_, _, world', conducts_orIfRefused hlisted (some .user), .rootDomain delivery⟩

/-! ## What a verdict rests on -/

/-- An account that owns the API key comes first among the listed ones, and has this type. -/
def OwnAccount (connection : Connection) (attempts : List Attempt) (accountType : AccountType) :
    Prop :=
  ∃ apiKey listing account, connection.apiKey? = some apiKey ∧
    connection.Answered attempts ownQuery (.ok listing) ∧
    listing.items.find? (owns apiKey) = some account ∧ account.accountType = accountType

/-- One of some domains is the top of the hierarchy. -/
def HasRoot (domains : List Domain) : Prop :=
  ∃ domain ∈ domains, domain.name = "ROOT" ∧ domain.parentId = none

/-- The domains of the root's name were listed, and are like this. -/
def RootListed (connection : Connection) (attempts : List Attempt) (like : List Domain → Prop) :
    Prop :=
  ∃ listing, connection.Answered attempts rootQuery (.ok listing) ∧ like listing.items

/-- Asking for the domains of the root's name was refused. -/
def RootRefused (connection : Connection) (attempts : List Attempt) : Prop :=
  ∃ code ∈ [401, 403, 432, 531], ∃ reason,
    connection.Answered attempts rootQuery (.error (.unauthorized "listDomains" code reason))

/-- The answers that speak for a tier. -/
def Evidence (connection : Connection) (attempts : List Attempt) : PrivilegeTier → Prop
  | .rootAdmin =>
    OwnAccount connection attempts .admin ∨ OwnAccount connection attempts .readOnlyAdmin ∨
      RootListed connection attempts HasRoot
  | .domainAdmin =>
    OwnAccount connection attempts .domainAdmin ∨
      OwnAccount connection attempts .resourceDomainAdmin ∨
        RootListed connection attempts fun domains => ¬ HasRoot domains
  | .user =>
    OwnAccount connection attempts .normal ∨ OwnAccount connection attempts .project ∨
      RootRefused connection attempts

theorem excused_eq_ok {value a : α} {result : Except ClientError α}
    (h : excused value result = .ok a) :
    result = .ok a ∨
      a = value ∧ ∃ error, result = .error error ∧ error.isAuthorizationFailure = true := by
  cases result with
  | ok b => exact .inl h
  | error error =>
    rw [excused] at h
    split at h
    · rename_i herror
      exact .inr ⟨(Except.ok.inj h).symm, error, rfl, herror⟩
    · exact absurd h (by simp)

theorem excused_eq_error {value : α} {result : Except ClientError α} {error : ClientError}
    (h : excused value result = .error error) :
    result = .error error ∧ error.isAuthorizationFailure = false := by
  cases result with
  | ok a => exact absurd h (by simp [excused])
  | error other =>
    rw [excused] at h
    split at h
    · exact absurd h (by simp)
    · rename_i hother
      obtain rfl := Except.error.inj h
      exact ⟨rfl, by simpa using hother⟩

theorem exists_of_map_eq_ok {β : Type} {f : α → β} {result : Except ClientError α} {b : β}
    (h : result.map f = .ok b) : ∃ a, result = .ok a ∧ f a = b := by
  cases result with
  | ok a => exact ⟨a, rfl, Except.ok.inj h⟩
  | error error => exact absurd h (by simp [Except.map])

/-- A tier that a probe tells rests on the answer to its question. -/
theorem evidence_of_consults {connection : Connection} {probe : Probe} {attempts : List Attempt}
    {tier : PrivilegeTier} (h : Consults connection probe attempts (.ok (some tier))) :
    Evidence connection attempts tier := by
  generalize hverdict : (Except.ok (some tier) : Except ClientError (Option PrivilegeTier)) =
    verdict at h
  cases h with
  | unsigned => exact absurd (Except.ok.inj hverdict) (by simp)
  | @ownAccount apiKey hkey delivery =>
    rcases excused_eq_ok hverdict.symm with hmap | ⟨hnone, -⟩
    · obtain ⟨accounts, hitems, htier⟩ := exists_of_map_eq_ok hmap
      obtain ⟨listing, hanswer, rfl⟩ := exists_of_map_eq_ok hitems
      obtain ⟨account, hfind, rfl⟩ := Option.map_eq_some_iff.1 htier
      have hown : OwnAccount connection [⟨ownQuery, delivery⟩] account.accountType :=
        ⟨apiKey, listing, account, hkey, (answered_cons_self ..).2 (.inl hanswer), hfind, rfl⟩
      cases htype : account.accountType with
      | normal => exact .inl (htype ▸ hown)
      | admin => exact .inl (htype ▸ hown)
      | domainAdmin => exact .inl (htype ▸ hown)
      | resourceDomainAdmin => exact .inr (.inl (htype ▸ hown))
      | readOnlyAdmin => exact .inr (.inl (htype ▸ hown))
      | project => exact .inr (.inl (htype ▸ hown))
    · exact absurd hnone (by simp)
  | rootDomain delivery =>
    rcases excused_eq_ok hverdict.symm with hmap | ⟨htier, error, hmap, herror⟩
    · obtain ⟨domains, hitems, htier⟩ := exists_of_map_eq_ok hmap
      obtain ⟨listing, hanswer, rfl⟩ := exists_of_map_eq_ok hitems
      have hlisted : connection.Answered [⟨rootQuery, delivery⟩] rootQuery (.ok listing) :=
        (answered_cons_self ..).2 (.inl hanswer)
      have hroot : listing.items.any Domain.isRoot = true ↔ HasRoot listing.items := by
        simp [Domain.isRoot, Domain.rootName, HasRoot]
      rw [Option.some.injEq, tierOfDomains] at htier
      split at htier
      · rename_i hany
        subst htier
        exact .inr (.inr ⟨listing, hlisted, hroot.1 hany⟩)
      · rename_i hany
        subst htier
        exact .inr (.inr ⟨listing, hlisted, fun hseen => hany (hroot.2 hseen)⟩)
    · obtain rfl := Option.some.inj htier
      cases hanswer : connection.answer rootQuery delivery with
      | ok listing => exact absurd hmap (by simp [hanswer, Except.map])
      | error other =>
        rw [hanswer] at hmap
        obtain rfl := Except.error.inj hmap
        obtain ⟨code, hcode, reason, rfl⟩ := unauthorized_of_answer hanswer herror
        exact .inr (.inr ⟨code, hcode, reason, (answered_cons_self ..).2 (.inl hanswer)⟩)

theorem evidence_mono {connection : Connection} {attempts more : List Attempt}
    (h : attempts ⊆ more) {tier : PrivilegeTier} (htier : Evidence connection attempts tier) :
    Evidence connection more tier := by
  have hanswered : ∀ {β : Type} {call : Call β} {result}, connection.Answered attempts call result →
      connection.Answered more call result := by
    rintro β call result ⟨delivery, hmem, hanswer⟩
    exact ⟨delivery, h hmem, hanswer⟩
  have hown : ∀ {accountType}, OwnAccount connection attempts accountType →
      OwnAccount connection more accountType := by
    rintro accountType ⟨apiKey, listing, account, hkey, hlisted, hrest⟩
    exact ⟨apiKey, listing, account, hkey, hanswered hlisted, hrest⟩
  have hroot : ∀ {like}, RootListed connection attempts like →
      RootListed connection more like := by
    rintro like ⟨listing, hlisted, hlike⟩
    exact ⟨listing, hanswered hlisted, hlike⟩
  cases tier with
  | rootAdmin => exact htier.imp hown (Or.imp hown hroot)
  | domainAdmin => exact htier.imp hown (Or.imp hown hroot)
  | user =>
    refine htier.imp hown (Or.imp hown ?_)
    rintro ⟨code, hcode, reason, hrefused⟩
    exact ⟨code, hcode, reason, hanswered hrefused⟩

theorem stopsAt_consults (connection : Connection) (probe : Probe) :
    Protocol.StopsAt connection (fun error => error.isAuthorizationFailure = false)
      (Consults connection probe) := by
  intro attempts verdict h before attempt after error hsplit hanswer herror
  cases h with
  | unsigned => exact absurd hsplit (by simp)
  | ownAccount hkey delivery =>
    obtain ⟨rfl, rfl, rfl⟩ : before = [] ∧ attempt = ⟨ownQuery, delivery⟩ ∧ after = [] := by
      simpa [List.singleton_eq_append_iff] using hsplit
    exact ⟨rfl, by simp [ownVerdict, hanswer, Except.map, excused, herror]⟩
  | rootDomain delivery =>
    obtain ⟨rfl, rfl, rfl⟩ : before = [] ∧ attempt = ⟨rootQuery, delivery⟩ ∧ after = [] := by
      simpa [List.singleton_eq_append_iff] using hsplit
    exact ⟨rfl, by simp [rootVerdict, hanswer, Except.map, excused, herror]⟩

theorem namesIn_consults (connection : Connection) (probe : Probe) :
    Protocol.NamesIn (Consults connection probe) ["listAccounts", "listDomains"] := by
  intro attempts verdict h attempt hattempt
  cases h with
  | unsigned => exact absurd hattempt List.not_mem_nil
  | ownAccount => exact List.mem_singleton.1 hattempt ▸ List.mem_cons_self
  | rootDomain => exact List.mem_singleton.1 hattempt ▸ List.mem_cons_of_mem _ List.mem_cons_self

/-- An error of a probe is that of its question, and no refusal. -/
theorem exists_of_consults_error {connection : Connection} {probe : Probe}
    {attempts : List Attempt} {error : ClientError}
    (h : Consults connection probe attempts (.error error)) :
    error.isAuthorizationFailure = false ∧ ∃ attempt, attempts = [attempt] ∧
      connection.answer attempt.call attempt.delivery = .error error := by
  have hmap : ∀ {β γ : Type} {f : β → γ} {result : Except ClientError β},
      result.map f = .error error → result = .error error := by
    intro β γ f result hresult
    cases result with
    | ok b => exact absurd hresult (by simp [Except.map])
    | error other => exact congrArg Except.error (Except.error.inj hresult)
  generalize hverdict : (Except.error error : Except ClientError (Option PrivilegeTier)) =
    verdict at h
  cases h with
  | unsigned => exact absurd hverdict (by simp)
  | ownAccount hkey delivery =>
    obtain ⟨hanswer, herror⟩ := excused_eq_error hverdict.symm
    exact ⟨herror, _, rfl, hmap (hmap hanswer)⟩
  | rootDomain delivery =>
    obtain ⟨hanswer, herror⟩ := excused_eq_error hverdict.symm
    exact ⟨herror, _, rfl, hmap (hmap hanswer)⟩

end Probe

/-- A probe that was asked: what it attempted, and its verdict. -/
structure Consultation where
  probe : Probe
  attempts : List Attempt
  verdict : Except ClientError (Option PrivilegeTier)

namespace Classifier

open Connection Probe

/-- The attempts of some consultations. -/
def attemptsOf (consultations : List Consultation) : List Attempt :=
  consultations.flatMap Consultation.attempts

/-- Asking probes in order until one can tell. -/
def classifies (connection : Connection) : Classifier → Protocol PrivilegeTier
  | [] => .Ends (.error inconclusive)
  | probe :: rest =>
    (Protocol.Then (Consults connection probe)) fun verdict =>
      match verdict with
      | some tier => .Ends (.ok tier)
      | none => classifies connection rest

theorem keepsTo_classify (client : Client) (classifier : Classifier) :
    client.connection.KeepsTo (classifier.classify client)
      (classifies client.connection classifier) := by
  induction classifier with
  | nil => exact keepsTo_throw client.connection inconclusive
  | cons probe rest ih =>
    refine keepsTo_bind (keepsTo_ask client probe) ?_
    intro verdict
    cases verdict with
    | some tier => exact keepsTo_pure client.connection tier
    | none => exact ih

theorem stopsAt_classifies (connection : Connection) (classifier : Classifier) :
    (classifies connection classifier).StopsAt connection
      fun error => error.isAuthorizationFailure = false := by
  induction classifier with
  | nil => exact Protocol.stopsAt_ends connection _ _
  | cons probe rest ih =>
    refine Protocol.stopsAt_then (stopsAt_consults connection probe) ?_
    intro verdict
    cases verdict with
    | some tier => exact Protocol.stopsAt_ends connection _ _
    | none => exact ih

/-! ## The consultations -/

/-- The probes that are asked, and what their verdicts come to. -/
inductive Asks (connection : Connection) :
    Classifier → List Consultation → Except ClientError PrivilegeTier → Prop
  | exhausted : Asks connection [] [] (.error inconclusive)
  | told {probe : Probe} {rest : Classifier} {attempts : List Attempt} {tier : PrivilegeTier}
    (h : Consults connection probe attempts (.ok (some tier))) :
    Asks connection (probe :: rest) [⟨probe, attempts, .ok (some tier)⟩] (.ok tier)
  | failed {probe : Probe} {rest : Classifier} {attempts : List Attempt} {error : ClientError}
    (h : Consults connection probe attempts (.error error)) :
    Asks connection (probe :: rest) [⟨probe, attempts, .error error⟩] (.error error)
  | silent {probe : Probe} {rest : Classifier} {attempts : List Attempt}
    {consultations : List Consultation} {result : Except ClientError PrivilegeTier}
    (h : Consults connection probe attempts (.ok none))
    (hrest : Asks connection rest consultations result) :
    Asks connection (probe :: rest) (⟨probe, attempts, .ok none⟩ :: consultations) result

theorem exists_asks {connection : Connection} {classifier : Classifier} {attempts : List Attempt}
    {result : Except ClientError PrivilegeTier}
    (h : classifies connection classifier attempts result) :
    ∃ consultations, Asks connection classifier consultations result ∧
      attemptsOf consultations = attempts := by
  induction classifier generalizing attempts with
  | nil =>
    obtain ⟨rfl, rfl⟩ := h
    exact ⟨[], .exhausted, rfl⟩
  | cons probe rest ih =>
    obtain ⟨first, more, verdict, rfl, hconsults, hafter⟩ := Protocol.exists_parts_of_then h
    rcases verdict with error | _ | tier
    · obtain ⟨rfl, rfl⟩ := hafter
      exact ⟨[⟨probe, first, .error error⟩], .failed hconsults, rfl⟩
    · obtain ⟨consultations, hasks, rfl⟩ := ih hafter
      exact ⟨⟨probe, first, .ok none⟩ :: consultations, .silent hconsults hasks, rfl⟩
    · obtain ⟨rfl, rfl⟩ := hafter
      exact ⟨[⟨probe, first, .ok (some tier)⟩], .told hconsults, rfl⟩

/-- What was asked comes to this, and to a tier only for a reason. -/
structure IsClassified (connection : Connection) (classifier : Classifier)
    (consultations : List Consultation) (result : Except ClientError PrivilegeTier) : Prop where
  inOrder : consultations.map Consultation.probe <+: classifier
  consults : ∀ consultation ∈ consultations,
    Consults connection consultation.probe consultation.attempts consultation.verdict
  sends : connection.Sends (attemptsOf consultations) result
  /-- Another probe is asked only if those before it cannot tell. -/
  silent : ∀ {before last after}, consultations = before ++ last :: after →
    ∀ earlier ∈ before, earlier.verdict = .ok none
  told : ∀ consultation ∈ consultations, ∀ tier, consultation.verdict = .ok (some tier) →
    result = .ok tier
  failed : ∀ consultation ∈ consultations, ∀ error, consultation.verdict = .error error →
    result = .error error
  /-- If no probe can tell, all were asked, and that is an error. -/
  exhausted : (∀ consultation ∈ consultations, consultation.verdict = .ok none) →
    consultations.map Consultation.probe = classifier ∧ result = .error inconclusive
  evidence : ∀ tier, result = .ok tier → Evidence connection (attemptsOf consultations) tier
  /-- Without an API key there is no account to look for. -/
  unsigned : connection.apiKey? = none → ¬ Made (attemptsOf consultations) "listAccounts"
  /-- An error that is no refusal ends the classification, and is what it comes to. -/
  failure : ∀ {before attempt after error},
    attemptsOf consultations = before ++ attempt :: after →
      connection.answer attempt.call attempt.delivery = .error error →
        error.isAuthorizationFailure = false → after = [] ∧ result = .error error
  blame : ∀ error, result = .error error →
    (error = inconclusive ∧ ∀ consultation ∈ consultations, consultation.verdict = .ok none) ∨
      error.isAuthorizationFailure = false ∧ ∃ before attempt,
        attemptsOf consultations = before ++ [attempt] ∧
          connection.answer attempt.call attempt.delivery = .error error

section

variable {connection : Connection} {classifier : Classifier} {consultations : List Consultation}
  {result : Except ClientError PrivilegeTier}

theorem inOrder_of_asks (h : Asks connection classifier consultations result) :
    consultations.map Consultation.probe <+: classifier := by
  induction h with
  | exhausted => exact List.prefix_refl []
  | told | failed => exact ⟨_, rfl⟩
  | silent h hrest ih => exact List.prefix_cons_inj _ |>.2 ih

theorem consults_of_asks (h : Asks connection classifier consultations result) :
    ∀ consultation ∈ consultations,
      Consults connection consultation.probe consultation.attempts consultation.verdict := by
  induction h with
  | exhausted => exact fun consultation hmem => absurd hmem List.not_mem_nil
  | told h | failed h =>
    intro consultation hmem
    rw [List.mem_singleton.1 hmem]
    exact h
  | silent h hrest ih =>
    intro consultation hmem
    rcases List.mem_cons.1 hmem with rfl | hmem
    · exact h
    · exact ih consultation hmem

theorem silent_of_asks (h : Asks connection classifier consultations result)
    {before after : List Consultation} {last : Consultation}
    (hsplit : consultations = before ++ last :: after) :
    ∀ earlier ∈ before, earlier.verdict = .ok none := by
  induction h generalizing before with
  | exhausted => exact absurd hsplit (by simp)
  | told | failed =>
    obtain rfl : before = [] := by
      simp [List.singleton_eq_append_iff] at hsplit
      exact hsplit.1
    exact fun earlier hmem => absurd hmem List.not_mem_nil
  | silent h hrest ih =>
    intro earlier hmem
    cases before with
    | nil => exact absurd hmem List.not_mem_nil
    | cons first before =>
      obtain ⟨rfl, hrest⟩ := List.cons.inj hsplit
      rcases List.mem_cons.1 hmem with rfl | hmem
      · rfl
      · exact ih hrest earlier hmem

/-- The verdicts settle the result. -/
theorem result_of_asks (h : Asks connection classifier consultations result) :
    (∀ consultation ∈ consultations, ∀ tier, consultation.verdict = .ok (some tier) →
        result = .ok tier) ∧
      (∀ consultation ∈ consultations, ∀ error, consultation.verdict = .error error →
        result = .error error) ∧
      ((∀ consultation ∈ consultations, consultation.verdict = .ok none) →
        consultations.map Consultation.probe = classifier ∧ result = .error inconclusive) := by
  induction h with
  | exhausted => simp
  | told h => simp
  | failed h => simp
  | silent h hrest ih => simpa using ih

theorem evidence_of_asks (h : Asks connection classifier consultations result)
    {tier : PrivilegeTier} (hresult : result = .ok tier) :
    Evidence connection (attemptsOf consultations) tier := by
  induction h with
  | exhausted => exact absurd hresult (by simp)
  | told h =>
    obtain rfl := Except.ok.inj hresult
    exact evidence_mono (by simp [attemptsOf]) (evidence_of_consults h)
  | failed h => exact absurd hresult (by simp)
  | silent h hrest ih => exact evidence_mono (by simp [attemptsOf]) (ih hresult)

theorem not_made_of_unsigned (h : Asks connection classifier consultations result)
    (hkey : connection.apiKey? = none) : ¬ Made (attemptsOf consultations) "listAccounts" := by
  rintro ⟨attempt, hattempt, hname⟩
  obtain ⟨consultation, hmem, hattempt⟩ := List.mem_flatMap.1 hattempt
  have hconsults := consults_of_asks h consultation hmem
  generalize consultation.attempts = attempts at hconsults hattempt
  generalize consultation.verdict = verdict at hconsults
  generalize consultation.probe = probe at hconsults
  cases hconsults with
  | unsigned => exact absurd hattempt List.not_mem_nil
  | ownAccount hsome => exact absurd (hkey.symm.trans hsome) (by simp)
  | rootDomain delivery =>
    rw [List.mem_singleton.1 hattempt] at hname
    exact absurd hname (by simp [rootQuery, DomainFilter.call])

theorem blame_of_asks (h : Asks connection classifier consultations result) {error : ClientError}
    (hresult : result = .error error) :
    (error = inconclusive ∧ ∀ consultation ∈ consultations, consultation.verdict = .ok none) ∨
      error.isAuthorizationFailure = false ∧ ∃ before attempt,
        attemptsOf consultations = before ++ [attempt] ∧
          connection.answer attempt.call attempt.delivery = .error error := by
  induction h with
  | exhausted => exact .inl ⟨(Except.error.inj hresult).symm, by simp⟩
  | told h => exact absurd hresult (by simp)
  | failed h =>
    obtain rfl := Except.error.inj hresult
    obtain ⟨herror, attempt, rfl, hanswer⟩ := exists_of_consults_error h
    exact .inr ⟨herror, [], attempt, rfl, hanswer⟩
  | @silent probe rest attempts consultations result h hrest ih =>
    rcases ih hresult with ⟨herror, hsilent⟩ | ⟨herror, before, attempt, hlast, hanswer⟩
    · exact .inl ⟨herror, by simpa using hsilent⟩
    · refine .inr ⟨herror, attempts ++ before, attempt, ?_, hanswer⟩
      rw [List.append_assoc, ← hlast]
      rfl

end

/-- Whatever the server does, a classification asks its probes in order, and comes to a tier only
for a reason. -/
theorem classify_isClassified {σ : Type} (client : Client) (classifier : Classifier)
    (world : World σ) :
    ∃ consultations result world',
      client.connection.Conducts (ExceptT.run (classifier.classify client)) world
          (attemptsOf consultations) result world' ∧
        IsClassified client.connection classifier consultations result := by
  obtain ⟨attempts, result, world', hconducts, hclassifies⟩ :=
    keepsTo_classify client classifier σ world
  have hstops : (classifies client.connection classifier).StopsAt client.connection
      fun error => error.isAuthorizationFailure = false :=
    stopsAt_classifies client.connection classifier
  have hsends := Protocol.sends_of_stopsAt hstops (fun _ => rfl) hclassifies
  have hfailure := @hstops attempts result hclassifies
  obtain ⟨consultations, hasks, rfl⟩ := exists_asks hclassifies
  obtain ⟨htold, hfailed, hexhausted⟩ := result_of_asks hasks
  exact ⟨consultations, result, world', hconducts, {
    inOrder := inOrder_of_asks hasks
    consults := consults_of_asks hasks
    sends := hsends
    silent := silent_of_asks hasks
    told := htold
    failed := hfailed
    exhausted := hexhausted
    evidence := fun _ => evidence_of_asks hasks
    unsigned := not_made_of_unsigned hasks
    failure := hfailure
    blame := fun _ => blame_of_asks hasks }⟩

end Classifier

end ControlPlane
