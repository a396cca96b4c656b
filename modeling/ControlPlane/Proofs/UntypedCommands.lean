import ControlPlane.Client
import ControlPlane.Proofs.FlatCalls

/-!
# Commands written by hand

A command of the catalogue is sent as its fields, flattened. The same command can be written by
hand: by its name, with the fields that are set added as parameters or as `name=value` texts, in
turn (`Command.foldlM_withEntry`). The order does not matter, since parameters are kept in the order
of their names.

Main statement: a command of the catalogue and the same command written by hand are the same action,
so they send the same requests and come to the same result on every server, and asking about a job
is one of them (`execute_byHand`).
-/

namespace ControlPlane

/-! ## Writing commands -/

namespace Command

/-- The command with parameters added one after another. -/
def withAll (command : Command) (params : List (String × String)) : Command :=
  params.foldl (fun command param => command.param param.1 param.2) command

theorem withAll_eq (command : Command) (params : List (String × String)) :
    command.withAll params = { command with
      params := params.foldl (fun acc param => Dictionary.insert param.1 param.2 acc)
        command.params } := by
  induction params generalizing command with
  | nil => rfl
  | cons param rest ih => exact ih _

/-- A parameter as a person writes it. -/
def pairText (param : String × String) : String := param.1 ++ "=" ++ param.2

theorem splitPair_pairText {param : String × String} (h : '=' ∉ param.1.toList) :
    splitPair (pairText param) = some param := by
  have htext : (pairText param).toList = param.1.toList ++ '=' :: param.2.toList := by
    simp [pairText]
  rw [splitPair, htext, Url.cutAt_append_self h]
  simp only [String.ofList_toList]

/-- Pairs are added like parameters; a value may hold further equals signs. -/
theorem withPairs_map {params : List (String × String)} (h : ∀ param ∈ params, '=' ∉ param.1.toList)
    (command : Command) :
    command.withPairs (params.map pairText) = .ok (command.withAll params) := by
  induction params generalizing command with
  | nil => rfl
  | cons param rest ih =>
    rw [List.map_cons, withPairs, splitPair_pairText (h param (by simp))]
    exact ih (fun other hother => h other (by simp [hother])) _

theorem withAll_append (command : Command) (params more : List (String × String)) :
    command.withAll (params ++ more) = (command.withAll params).withAll more :=
  List.foldl_append

/-- What is added to a command at once: a parameter, or parameters as texts. -/
inductive Entry where
  | param (field : String × String)
  | pairs (fields : List (String × String))

/-- The parameters of an entry. -/
def Entry.fields : Entry → List (String × String)
  | .param field => [field]
  | .pairs fields => fields

/-- The command with the parameters of an entry. -/
def withEntry (command : Command) : Entry → Except ClientError Command
  | .param field => .ok (command.param field.1 field.2)
  | .pairs fields => command.withPairs (fields.map pairText)

theorem withEntry_eq {entry : Entry} (h : ∀ field ∈ entry.fields, '=' ∉ field.1.toList)
    (command : Command) : command.withEntry entry = .ok (command.withAll entry.fields) := by
  cases entry with
  | param field => rfl
  | pairs fields => exact withPairs_map h command

/-- Whichever way parameters are added, they come into the command one after another. -/
theorem foldlM_withEntry {entries : List Entry}
    (h : ∀ field ∈ entries.flatMap Entry.fields, '=' ∉ field.1.toList) (command : Command) :
    entries.foldlM withEntry command = .ok (command.withAll (entries.flatMap Entry.fields)) := by
  induction entries generalizing command with
  | nil => rfl
  | cons entry rest ih =>
    rw [List.flatMap_cons] at h ⊢
    have hentry : command.withEntry entry = .ok (command.withAll entry.fields) :=
      withEntry_eq (fun field hfield => h field (List.mem_append_left _ hfield)) command
    rw [List.foldlM_cons, hentry, withAll_append]
    exact ih (fun field hfield => h field (List.mem_append_right _ hfield)) _

end Command

/-! ## The catalogue -/

/-- A command of the catalogue, with its fields. -/
inductive CatalogueCommand where
  | listDomains (filter : DomainFilter)
  | createDomain (domain : NewDomain)
  | listAccounts (filter : AccountFilter)
  | createAccount (account : NewAccount)
  | deleteAccount (id : String)
  | listUsers (filter : UserFilter)
  | registerUserKeys (userId : String)
  | getUserKeys (userId : String)
  | jobResult (jobId : String)

namespace CatalogueCommand

open Connection

/-- What a command answers with. -/
def Answer : CatalogueCommand → Type
  | .listDomains _ => Listing Domain
  | .createDomain _ => Domain
  | .listAccounts _ => Listing Account
  | .createAccount _ => Account
  | .deleteAccount _ => SuccessReport
  | .listUsers _ => Listing User
  | .registerUserKeys _ => KeyPair
  | .getUserKeys _ => KeyPair
  | .jobResult _ => Job

/-- The call of a command. -/
def call : (command : CatalogueCommand) → Call command.Answer
  | .listDomains filter => filter.call
  | .createDomain domain => domain.call
  | .listAccounts filter => filter.call
  | .createAccount account => account.call
  | .deleteAccount id => .deleteAccount id
  | .listUsers filter => filter.call
  | .registerUserKeys userId => .registerUserKeys userId
  | .getUserKeys userId => .getUserKeys userId
  | .jobResult jobId => .jobResult jobId

/-- A field under its name, if it is set. -/
def ifSet (name : String) (value : Option String) : List (String × String) :=
  value.toList.map (name, ·)

/-- A truth value as a person writes it. -/
def word (flag : Bool) : String := if flag then "true" else "false"

/-- The fields that are set, as a person writes them. -/
def setFields : CatalogueCommand → List (String × String)
  | .listDomains filter =>
    ifSet "id" filter.id ++ ifSet "name" filter.name ++ ifSet "listall" (filter.listAll.map word)
  | .createDomain domain => ("name", domain.name) :: ifSet "parentdomainid" domain.parentId
  | .listAccounts filter =>
    ifSet "id" filter.id ++ ifSet "name" filter.name ++ ifSet "domainid" filter.domainId ++
      ifSet "listall" (filter.listAll.map word)
  | .createAccount account =>
    [("accounttype", Number.text account.accountType.code), ("domainid", account.domainId),
      ("email", account.email), ("firstname", account.firstName), ("lastname", account.lastName),
      ("password", account.password), ("username", account.username)] ++
      ifSet "account" account.account
  | .deleteAccount id => [("id", id)]
  | .listUsers filter =>
    ifSet "id" filter.id ++ ifSet "username" filter.username ++ ifSet "account" filter.account ++
      ifSet "domainid" filter.domainId ++ ifSet "listall" (filter.listAll.map word)
  | .registerUserKeys userId => [("id", userId)]
  | .getUserKeys userId => [("id", userId)]
  | .jobResult jobId => [("jobid", jobId)]

/-- A command without its fields: its name, and whether it starts a job. -/
def bare (command : CatalogueCommand) : Command :=
  if command.call.isAsync then (Command.named command.call.name).asynchronous
  else .named command.call.name

theorem textsOf_given (name : String) (value : Option String) :
    textsOf (Call.given name value) = ifSet name value := by
  cases value with
  | none => rfl
  | some text => rfl

theorem textsOf_givenFlag (name : String) (value : Option Bool) :
    textsOf (Call.givenFlag name value) = ifSet name (value.map word) := by
  cases value with
  | none => rfl
  | some flag => rfl

/-- What a command is flattened to are the fields that are set. -/
theorem fieldTexts_call (command : CatalogueCommand) :
    fieldTexts command.call = command.setFields := by
  cases command with
  | listDomains | listAccounts | listUsers =>
    simp only [fieldTexts, call, DomainFilter.call, AccountFilter.call, UserFilter.call,
      textsOf_append, textsOf_given, textsOf_givenFlag, setFields]
  | createDomain domain =>
    exact congrArg _ (textsOf_given "parentdomainid" domain.parentId)
  | createAccount account =>
    rw [fieldTexts, call, NewAccount.call, textsOf_append, textsOf_given]
    rfl
  | deleteAccount | registerUserKeys | getUserKeys | jobResult => rfl

theorem exists_isFlat (command : CatalogueCommand) : ∃ names, IsFlat command.call names := by
  cases command with
  | listDomains filter => exact ⟨_, isFlat_listDomains filter⟩
  | createDomain domain => exact ⟨_, isFlat_createDomain domain⟩
  | listAccounts filter => exact ⟨_, isFlat_listAccounts filter⟩
  | createAccount account => exact ⟨_, isFlat_createAccount account⟩
  | listUsers filter => exact ⟨_, isFlat_listUsers filter⟩
  | deleteAccount | registerUserKeys | getUserKeys =>
    exact ⟨["id"], isFlat_of_text rfl (by decide)⟩
  | jobResult => exact ⟨["jobid"], isFlat_of_text rfl (by decide)⟩

theorem bare_eq (command : CatalogueCommand) :
    command.bare = ⟨command.call.name, command.call.isAsync, []⟩ := by
  cases hasync : command.call.isAsync with
  | true => rw [bare, hasync, if_pos rfl]; rfl
  | false => rw [bare, hasync, if_neg (by simp)]; rfl

theorem nodup_setFields (command : CatalogueCommand) :
    (command.setFields.map Prod.fst).Nodup := by
  obtain ⟨names, hflat⟩ := command.exists_isFlat
  rw [← fieldTexts_call]
  exact hflat.nodup.sublist ((fieldTexts_names_sublist _).trans hflat.flat.sublist)

theorem not_mem_name_of_mem_setFields {command : CatalogueCommand} {field : String × String}
    (h : field ∈ command.setFields) : '=' ∉ field.1.toList := by
  obtain ⟨names, hflat⟩ := command.exists_isFlat
  rw [← fieldTexts_call] at h
  intro hmem
  have hplain := List.all_eq_true.1 (plain_of_mem_fieldTexts hflat h).2 _ hmem
  exact absurd hplain (by decide)

/-- The fields that are set, in any order, make the command that is sent. -/
theorem withAll_bare {command : CatalogueCommand} {fields : List (String × String)}
    (h : fields.Perm command.setFields) :
    command.bare.withAll fields = command.call.toCommand := by
  obtain ⟨names, hflat⟩ := command.exists_isFlat
  have hparams : fields.Perm command.call.params :=
    h.trans (command.fieldTexts_call ▸ params_perm_of_isFlat hflat).symm
  have hnodup : (fields.map Prod.fst).Nodup :=
    (h.map Prod.fst).nodup_iff.2 command.nodup_setFields
  rw [bare_eq, Command.withAll_eq, Call.toCommand, ← Dictionary.ofList_congr hparams hnodup]
  rfl

end CatalogueCommand

/-! ## Running commands -/

namespace Connection

variable {α : Type}

/-- A command that starts no job is sent, and its reply is decoded. -/
theorem execute_of_not_isAsync (connection : Connection) {call : Call α}
    (h : call.isAsync = false) :
    connection.execute call = (do
      let body ← connection.send call.toCommand
      Action.ofExcept (decoded (call.decode body))) := by
  rw [execute, executeRaw, Action.bind_assoc]
  simp only [Call.toCommand_isAsync, h]
  rfl

/-- A command of the catalogue does what the same command does that is written by hand, with its
fields added as parameters or as pairs, in any order; none of them is lost. Asking about a job by
hand is such a command. -/
theorem execute_byHand :
    (∀ (connection : Connection) (command : CatalogueCommand) (entries : List Command.Entry),
      (entries.flatMap Command.Entry.fields).Perm command.setFields →
        ∃ byHand,
          entries.foldlM Command.withEntry command.bare = .ok byHand ∧
          connection.execute command.call = (do
            let output ← connection.executeRaw byHand
            Action.ofExcept (decoded (command.call.decode output.body))) ∧
          (admitted byHand.params).Perm command.setFields) ∧
    ∀ (client : Client) (jobId : String),
      client.connection.queryJob jobId = client.jobResult jobId := by
  constructor
  · intro connection command entries h
    obtain ⟨names, hflat⟩ := command.exists_isFlat
    have hnames : ∀ field ∈ entries.flatMap Command.Entry.fields, '=' ∉ field.1.toList :=
      fun field hfield =>
        CatalogueCommand.not_mem_name_of_mem_setFields (h.mem_iff.1 hfield)
    refine ⟨command.call.toCommand, ?_, rfl, ?_⟩
    · rw [Command.foldlM_withEntry hnames, CatalogueCommand.withAll_bare h]
    · rw [← CatalogueCommand.fieldTexts_call]
      exact admitted_perm_of_isFlat hflat
  · intro client jobId
    have hexecute := @execute_of_not_isAsync _ client.connection (Call.jobResult jobId) rfl
    exact hexecute.symm

/-- An account whose texts are empty or hold equals signs and commas, with its fields added both
ways in turn. -/
theorem exists_account_byHand :
    ∃ byHand,
      [.param ("username", "alice"), .pairs [("password", "x,y=z"), ("email", "a=b")],
        .param ("accounttype", "2"),
        .pairs [("lastname", ""), ("firstname", "alice"), ("domainid", "d-1")]].foldlM
          Command.withEntry (.named "createAccount") = .ok byHand ∧
      (ofSettings { host := "127.0.0.1", port := 8080 } .zero .zero).execute
        ({ accountType := .domainAdmin, domainId := "d-1", email := "a=b", firstName := "alice",
           lastName := "", password := "x,y=z", username := "alice" } : NewAccount).call = (do
          let output ←
            (ofSettings { host := "127.0.0.1", port := 8080 } .zero .zero).executeRaw byHand
          Action.ofExcept (decoded (Account.ofCreated output.body))) := by
  obtain ⟨byHand, hentries, hexecute, -⟩ := execute_byHand.1
    (ofSettings { host := "127.0.0.1", port := 8080 } .zero .zero)
    (.createAccount
      { accountType := .domainAdmin, domainId := "d-1", email := "a=b", firstName := "alice",
        lastName := "", password := "x,y=z", username := "alice" })
    [.param ("username", "alice"), .pairs [("password", "x,y=z"), ("email", "a=b")],
      .param ("accounttype", "2"),
      .pairs [("lastname", ""), ("firstname", "alice"), ("domainid", "d-1")]] (by decide)
  exact ⟨byHand, hentries, hexecute⟩

end Connection

end ControlPlane
