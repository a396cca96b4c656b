import ControlPlane.Proofs.SignedRequests
import Mathlib.Data.List.Nodup

/-!
# Flat calls

A call is flat if its fields are scalars under distinct plain names that the connection does not set
itself. The calls of the catalogue are flat. What a server reads of the query of such a call is its
command and its fields, in some order, and nothing else (`received_perm_of_isFlat`).
-/

namespace ControlPlane

/-! ## Dictionaries of distinct names -/

namespace Dictionary

variable {α : Type}

theorem insert_perm {key : String} {value : α} {entries : Dictionary α}
    (h : key ∉ entries.map Prod.fst) :
    (insert key value entries).Perm ((key, value) :: entries) := by
  induction entries with
  | nil => exact List.Perm.refl _
  | cons entry rest ih =>
    obtain ⟨k, v⟩ := entry
    simp only [List.map_cons, List.mem_cons, not_or] at h
    unfold insert
    split
    · exact List.Perm.refl _
    · rw [if_neg h.1]
      exact ((ih h.2).cons _).trans (List.Perm.swap _ _ _)

/-- Entries with distinct names all stay. -/
theorem ofList_perm {entries : List (String × α)} (h : (entries.map Prod.fst).Nodup) :
    (ofList entries).Perm entries := by
  have hfold : ∀ acc : Dictionary α, (acc.map Prod.fst ++ entries.map Prod.fst).Nodup →
      (entries.foldl (fun acc entry => insert entry.1 entry.2 acc) acc).Perm (acc ++ entries) := by
    clear h
    induction entries with
    | nil => simp
    | cons entry rest ih =>
      intro acc hnodup
      rw [List.map_cons] at hnodup
      have hnew : entry.1 ∉ acc.map Prod.fst := by
        intro hmem
        exact (List.nodup_append.1 hnodup).2.2 _ hmem _ List.mem_cons_self rfl
      have hinsert := @insert_perm _ entry.1 entry.2 acc hnew
      have hnext := ih (insert entry.1 entry.2 acc) ?_
      · exact hnext.trans ((hinsert.append_right rest).trans List.perm_middle.symm)
      · refine (((hinsert.map Prod.fst).append_right _).trans ?_).nodup_iff.2 hnodup
        exact List.perm_middle.symm
  exact hfold [] (by simpa using h)

/-- A dictionary is determined by its entries. -/
theorem eq_of_perm {entries more : Dictionary α} (h : entries.Perm more) (hentries : Sorted entries)
    (hmore : Sorted more) : entries = more := by
  refine List.Perm.eq_of_pairwise ?_ hentries hmore h
  intro a b _ _ hab hba
  exact absurd hba (String.lt_asymm hab)

/-- Entries with distinct names make the same dictionary in any order. -/
theorem ofList_congr {entries more : List (String × α)} (h : entries.Perm more)
    (hnodup : (entries.map Prod.fst).Nodup) : ofList entries = ofList more := by
  refine eq_of_perm ?_ (sorted_ofList entries) (sorted_ofList more)
  exact ((ofList_perm hnodup).trans h).trans
    (ofList_perm ((h.map Prod.fst).nodup_iff.1 hnodup)).symm

end Dictionary

/-! ## Scalar fields -/

namespace Connection

open Signing Url

variable {α : Type}

/-- Scalar fields as texts. -/
def textsOf (fields : List (String × Json)) : List (String × String) :=
  fields.filterMap fun field => (Command.scalar? field.2).map (field.1, ·)

/-- The fields of a call as texts. -/
def fieldTexts (call : Call α) : List (String × String) :=
  textsOf call.fields

theorem textsOf_append (fields more : List (String × Json)) :
    textsOf (fields ++ more) = textsOf fields ++ textsOf more :=
  List.filterMap_append

/-- Fields are scalars under some of these names, in their order. -/
structure FlatFields (fields : List (String × Json)) (names : List String) : Prop where
  sublist : (fields.map Prod.fst).Sublist names
  scalar : ∀ field ∈ fields, (Command.scalar? field.2).isSome = true

theorem flatFields_cons {fields : List (String × Json)} {names : List String} {name : String}
    {value : Json} (hvalue : (Command.scalar? value).isSome = true)
    (h : FlatFields fields names) : FlatFields ((name, value) :: fields) (name :: names) :=
  ⟨h.sublist.cons_cons name, List.forall_mem_cons.2 ⟨hvalue, h.scalar⟩⟩

theorem flatFields_append {fields more : List (String × Json)} {names moreNames : List String}
    (h : FlatFields fields names) (hmore : FlatFields more moreNames) :
    FlatFields (fields ++ more) (names ++ moreNames) := by
  refine ⟨?_, List.forall_mem_append.2 ⟨h.scalar, hmore.scalar⟩⟩
  rw [List.map_append]
  exact h.sublist.append hmore.sublist

theorem flatFields_given (name : String) (value : Option String) :
    FlatFields (Call.given name value) [name] := by
  cases value with
  | none => exact ⟨List.nil_sublist _, fun field hfield => absurd hfield List.not_mem_nil⟩
  | some text => exact flatFields_cons rfl ⟨List.Sublist.refl [], by simp⟩

theorem flatFields_givenFlag (name : String) (value : Option Bool) :
    FlatFields (Call.givenFlag name value) [name] := by
  cases value with
  | none => exact ⟨List.nil_sublist _, fun field hfield => absurd hfield List.not_mem_nil⟩
  | some flag => exact flatFields_cons rfl ⟨List.Sublist.refl [], by simp⟩

/-- The fields of a call are scalars under distinct names, none of them reserved. -/
structure IsFlat (call : Call α) (names : List String) : Prop where
  flat : FlatFields call.fields names
  nodup : names.Nodup
  plain : ∀ name ∈ names, name ∉ reserved ∧ name.toList.all isPlain = true

theorem params_perm_of_isFlat {call : Call α} {names : List String} (h : IsFlat call names) :
    call.params.Perm (fieldTexts call) := by
  have hmember : ∀ field ∈ call.fields, Command.flattenMember field.1 field.2 =
      ((Command.scalar? field.2).map (field.1, ·)).toList := by
    rintro ⟨name, value⟩ hfield
    have hscalar := h.flat.scalar _ hfield
    cases value with
    | null => exact absurd hscalar (by simp [Command.scalar?])
    | bool b => rfl
    | num n => rfl
    | str s => rfl
    | arr items => exact absurd hscalar (by simp [Command.scalar?])
    | obj members => exact absurd hscalar (by simp [Command.scalar?])
  have hfields := (Dictionary.ofList_perm (h.nodup.sublist h.flat.sublist)).flatMap_right
    fun field => Command.flattenMember field.1 field.2
  refine hfields.trans (List.Perm.of_eq ?_)
  rw [fieldTexts, textsOf, List.filterMap_eq_flatMap_toList]
  exact List.flatMap_congr hmember

theorem fieldTexts_names_sublist (call : Call α) :
    ((fieldTexts call).map Prod.fst).Sublist (call.fields.map Prod.fst) := by
  rw [fieldTexts]
  induction call.fields with
  | nil => exact List.Sublist.refl []
  | cons field rest ih =>
    cases hscalar : Command.scalar? field.2 with
    | none => simpa [textsOf, hscalar] using ih.cons field.1
    | some text => simpa [textsOf, hscalar] using ih.cons_cons field.1

theorem plain_of_mem_fieldTexts {call : Call α} {names : List String} (h : IsFlat call names)
    {param : String × String} (hparam : param ∈ fieldTexts call) :
    param.1 ∉ reserved ∧ param.1.toList.all isPlain = true :=
  h.plain param.1
    (((fieldTexts_names_sublist call).trans h.flat.sublist).subset (List.mem_map_of_mem hparam))

/-! ## The calls of the catalogue -/

theorem isFlat_listDomains (filter : DomainFilter) : IsFlat filter.call ["id", "name", "listall"] :=
  ⟨flatFields_append (flatFields_append (flatFields_given _ _) (flatFields_given _ _))
    (flatFields_givenFlag _ _), by decide, by decide⟩

theorem isFlat_createDomain (domain : NewDomain) :
    IsFlat domain.call ["name", "parentdomainid"] :=
  ⟨flatFields_cons rfl (flatFields_given _ _), by decide, by decide⟩

theorem isFlat_listAccounts (filter : AccountFilter) :
    IsFlat filter.call ["id", "name", "domainid", "listall"] :=
  ⟨flatFields_append (flatFields_append (flatFields_append (flatFields_given _ _)
    (flatFields_given _ _)) (flatFields_given _ _)) (flatFields_givenFlag _ _), by decide,
    by decide⟩

theorem isFlat_createAccount (account : NewAccount) :
    IsFlat account.call ["accounttype", "domainid", "email", "firstname", "lastname", "password",
      "username", "account"] :=
  ⟨flatFields_cons rfl (flatFields_cons rfl (flatFields_cons rfl (flatFields_cons rfl
    (flatFields_cons rfl (flatFields_cons rfl (flatFields_cons rfl (flatFields_given _ _))))))),
    by decide, by decide⟩

theorem isFlat_listUsers (filter : UserFilter) :
    IsFlat filter.call ["id", "username", "account", "domainid", "listall"] :=
  ⟨flatFields_append (flatFields_append (flatFields_append (flatFields_append
    (flatFields_given _ _) (flatFields_given _ _)) (flatFields_given _ _))
    (flatFields_given _ _)) (flatFields_givenFlag _ _), by decide, by decide⟩

/-- A call with a text as its only field. -/
theorem isFlat_of_text {call : Call α} {name value : String}
    (h : call.fields = [(name, .str value)])
    (hname : name ∉ reserved ∧ name.toList.all isPlain = true) : IsFlat call [name] :=
  ⟨h ▸ flatFields_cons rfl ⟨List.Sublist.refl [], by simp⟩, List.nodup_singleton name,
    List.forall_mem_singleton.2 hname⟩

/-! ## What is sent, and what is read -/

/-- No field of a flat call is lost to the reserved names. -/
theorem admitted_perm_of_isFlat {call : Call α} {names : List String} (h : IsFlat call names) :
    (admitted call.toCommand.params).Perm (fieldTexts call) := by
  have hnames := (fieldTexts_names_sublist call).trans h.flat.sublist
  have hparams : call.toCommand.params.Perm (fieldTexts call) := by
    refine (Dictionary.ofList_perm ?_).trans (params_perm_of_isFlat h)
    exact ((params_perm_of_isFlat h).map Prod.fst).nodup_iff.2 (h.nodup.sublist hnames)
  refine (hparams.filter _).trans (List.Perm.of_eq (List.filter_eq_self.2 ?_))
  intro param hparam
  simpa using (plain_of_mem_fieldTexts h hparam).1

/-- What is sent of a flat call is its command and its fields. -/
theorem sentParameters_perm_of_isFlat {call : Call α} {names : List String}
    (h : IsFlat call names) :
    (sentParameters .integration call.toCommand).Perm
      (("command", call.name) :: ("response", "json") :: fieldTexts call) :=
  (sentParameters_perm .integration call.toCommand).trans
    (((admitted_perm_of_isFlat h).cons _).cons _)

/-- A server that receives a flat call reads its command and its fields. -/
theorem received_perm_of_isFlat {call : Call α} {names : List String} (h : IsFlat call names) :
    (received (sentQuery (written (sentParameters .integration call.toCommand)))).Perm
      (("command", call.name) :: ("response", "json") :: fieldTexts call) := by
  have hsent := sentParameters_perm_of_isFlat h
  rw [received_of_survives]
  · exact hsent
  · intro param hparam
    have hmem : param ∈ sentParameters .integration call.toCommand :=
      (sentParameters_perm .integration call.toCommand).mem_iff.2 (List.mem_append_right _ hparam)
    rcases List.mem_cons.1 (hsent.mem_iff.1 hmem) with rfl | hmem
    · exact survives_of_mem_reserved (show "command" ∈ reserved by decide)
    · rcases List.mem_cons.1 hmem with rfl | hmem
      · exact survives_of_mem_reserved (show "response" ∈ reserved by decide)
      · exact survives_of_isPlain (List.all_eq_true.1 (plain_of_mem_fieldTexts h hmem).2)

end Connection

end ControlPlane
