import ControlPlane.Proofs.FlatCalls
import ControlPlane.Proofs.RecordFields
import ControlPlane.Proofs.SortedValues

/-!
# Flattened commands

A command can say something in a field, or in a member of a field (`Command.Place`); each place has
a name as a parameter, and `Command.Says` tells which text stands there, if any. As long as no field
has an opening bracket in its name, names tell places apart (`Place.paramName_injective`), whatever
the keys of the members are: the first bracket of a name ends the field.

Flattening a field emits what the field says (`mem_flattenMember_iff`), so flattening a command
emits what the command says, under distinct names (`mem_flatten_iff`, `nodup_flatten`), and what is
null, empty or nested too deep could as well be left out (`flatMap_essential`).

Main statement: flattening loses, merges and invents nothing, up to the parameters of the command,
and what is no object is refused (`ofValue_isFlattened`).
-/

namespace ControlPlane

namespace Command

/-! ## Places of a command -/

/-- Where a command can say something: in a field, or in a member of a field. -/
inductive Place where
  | field (name : String)
  | member (name key : String)

namespace Place

/-- The field of a place. -/
def owner : Place → String
  | .field name => name
  | .member name _ => name

/-- The name of the parameter for a place. -/
def paramName : Place → String
  | .field name => name
  | .member name key => name ++ "[0]." ++ key

/-- The field that a name of a parameter belongs to: it ends at the first opening bracket. -/
def ownerOf (param : String) : String :=
  String.ofList (Url.cutAt (· == '[') param.toList).1

theorem toList_member (name key : String) :
    (member name key).paramName.toList =
      name.toList ++ '[' :: ("0].".toList ++ key.toList) := by
  simp [paramName]

theorem ownerOf_paramName {place : Place} (h : '[' ∉ place.owner.toList) :
    ownerOf place.paramName = place.owner := by
  cases place with
  | field name =>
    have hcut := @Url.cutAt_of_not_mem '[' name.toList h
    rw [ownerOf, paramName, hcut, String.ofList_toList, owner]
  | member name key =>
    have hcut := @Url.cutAt_append_self '[' name.toList h
    rw [ownerOf, toList_member, hcut, String.ofList_toList, owner]

theorem member_injective {name key key' : String}
    (h : (member name key).paramName = (member name key').paramName) : key = key' := by
  have hlist := congrArg String.toList h
  rw [toList_member, toList_member, List.append_cancel_left_eq, List.cons.injEq,
    List.append_cancel_left_eq] at hlist
  exact String.toList_injective hlist.2

/-- A plain field and its members are never taken for each other. -/
theorem field_ne_member {name key : String} (h : '[' ∉ name.toList) :
    (field name).paramName ≠ (member name key).paramName := by
  intro heq
  refine h ?_
  have hlist : name.toList = name.toList ++ '[' :: ("0].".toList ++ key.toList) := by
    rw [← toList_member, ← heq]
    rfl
  rw [hlist]
  simp

/-- Names of parameters tell the places of plain fields apart. -/
theorem paramName_injective {place place' : Place} (h : '[' ∉ place.owner.toList)
    (h' : '[' ∉ place'.owner.toList) (heq : place.paramName = place'.paramName) :
    place = place' := by
  have howner : place.owner = place'.owner := by
    rw [← ownerOf_paramName h, heq, ownerOf_paramName h']
  -- of the places of one field, only the field itself has no bracket in its name
  cases place with
  | field name =>
    cases place' with
    | field name' => exact congrArg field howner
    | member name' key' =>
      obtain rfl : name = name' := howner
      exact absurd heq (field_ne_member h)
  | member name key =>
    obtain rfl : name = place'.owner := howner
    cases place' with
    | field name' => exact absurd heq.symm (field_ne_member h)
    | member name' key' => exact congrArg (member name') (member_injective heq)

end Place

/-! ## What a command says -/

/-- The text of a string, a truth value or a number. -/
inductive HasText : Json → String → Prop
  | str (s : String) : HasText (.str s) s
  | yes : HasText (.bool true) "true"
  | no : HasText (.bool false) "false"
  | num (n : JsonNumber) : HasText (.num n) n.text

/-- The texts of the items of a list that have one, in their order. -/
inductive ItemTexts : List Json → List String → Prop
  | nil : ItemTexts [] []
  | text {item : Json} {items : List Json} {text : String} {texts : List String}
    (h : HasText item text) (hitems : ItemTexts items texts) :
    ItemTexts (item :: items) (text :: texts)
  | other {item : Json} {items : List Json} {texts : List String}
    (h : ∀ text, ¬ HasText item text) (hitems : ItemTexts items texts) :
    ItemTexts (item :: items) texts

/-- What the fields of a command say at a place: a scalar its text, a list with scalars their texts
with commas between them, and an object the texts of the scalars among its members. -/
inductive Says (fields : List (String × Json)) : Place → String → Prop
  | scalar {name text : String} {value : Json} (hfield : (name, value) ∈ fields)
    (h : HasText value text) : Says fields (.field name) text
  | list {name : String} {items : List Json} {texts : List String}
    (hfield : (name, .arr items) ∈ fields) (h : ItemTexts items texts) (hne : texts ≠ []) :
    Says fields (.field name) (",".intercalate texts)
  | member {name key text : String} {members : List (String × Json)} {value : Json}
    (hfield : (name, .obj members) ∈ fields) (hmember : (key, value) ∈ members)
    (h : HasText value text) : Says fields (.member name key) text

theorem hasText_iff {value : Json} {text : String} :
    HasText value text ↔ scalar? value = some text := by
  constructor
  · rintro (s | _ | _ | n)
    · rfl
    · rfl
    · rfl
    · rfl
  · intro h
    cases value with
    | bool b =>
      cases b with
      | true => exact Option.some.inj h ▸ .yes
      | false => exact Option.some.inj h ▸ .no
    | num n => exact Option.some.inj h ▸ .num n
    | str s => exact Option.some.inj h ▸ .str s
    | null | arr | obj => exact absurd h (by simp [scalar?])

theorem itemTexts_iff {items : List Json} {texts : List String} :
    ItemTexts items texts ↔ items.filterMap scalar? = texts := by
  constructor
  · intro h
    induction h with
    | nil => rfl
    | text h _ ih => rw [List.filterMap_cons_some (hasText_iff.1 h), ih]
    | other h _ ih =>
      have hnone := Option.eq_none_iff_forall_ne_some.2
        fun text htext => h text (hasText_iff.2 htext)
      rw [List.filterMap_cons_none hnone, ih]
  · rintro rfl
    induction items with
    | nil => exact .nil
    | cons item items ih =>
      cases htext : scalar? item with
      | some text =>
        rw [List.filterMap_cons_some htext]
        exact .text (hasText_iff.2 htext) ih
      | none =>
        rw [List.filterMap_cons_none htext]
        refine .other ?_ ih
        intro text h
        exact absurd (htext.symm.trans (hasText_iff.1 h)) (by simp)

theorem owner_of_says {fields : List (String × Json)} {place : Place} {text : String}
    (h : Says fields place text) : ∃ value, (place.owner, value) ∈ fields := by
  cases h with
  | scalar hfield | list hfield | member hfield => exact ⟨_, hfield⟩

theorem Says.mono {fields more : List (String × Json)} {place : Place} {text : String}
    (hsub : fields ⊆ more) (h : Says fields place text) : Says more place text := by
  cases h with
  | scalar hfield h => exact .scalar (hsub hfield) h
  | list hfield h hne => exact .list (hsub hfield) h hne
  | member hfield hmember h => exact .member (hsub hfield) hmember h

/-- Each field speaks for itself. -/
theorem says_iff {fields : List (String × Json)} {place : Place} {text : String} :
    Says fields place text ↔ ∃ field ∈ fields, Says [field] place text := by
  constructor
  · intro h
    cases h with
    | scalar hfield h => exact ⟨_, hfield, .scalar List.mem_cons_self h⟩
    | list hfield h hne => exact ⟨_, hfield, .list List.mem_cons_self h hne⟩
    | member hfield hmember h => exact ⟨_, hfield, .member List.mem_cons_self hmember h⟩
  · rintro ⟨field, hfield, h⟩
    exact h.mono (List.cons_subset.2 ⟨hfield, List.nil_subset _⟩)

/-! ## One field -/

theorem flattenMember_of_hasText {name text : String} {value : Json} (h : HasText value text) :
    flattenMember name value = [(name, text)] := by
  cases h with
  | str | yes | no | num => rfl

theorem flattenMember_arr (name : String) (items : List Json) :
    flattenMember name (.arr items) =
      if items.filterMap scalar? = [] then []
      else [(name, ",".intercalate (items.filterMap scalar?))] := by
  rw [flattenMember]
  cases items.filterMap scalar? with
  | nil => rfl
  | cons text texts => rfl

theorem mem_flattenMember_obj {name param text : String} {members : List (String × Json)} :
    (param, text) ∈ flattenMember name (.obj members) ↔
      ∃ key value, (key, value) ∈ members ∧ HasText value text ∧
        (Place.member name key).paramName = param := by
  rw [flattenMember, List.mem_filterMap]
  constructor
  · rintro ⟨⟨key, value⟩, hmember, h⟩
    obtain ⟨own, hown, h⟩ := Option.map_eq_some_iff.1 h
    obtain ⟨rfl, rfl⟩ := Prod.mk.inj h
    exact ⟨key, value, hmember, hasText_iff.2 hown, rfl⟩
  · rintro ⟨key, value, hmember, h, rfl⟩
    exact ⟨(key, value), hmember, Option.map_eq_some_iff.2 ⟨text, hasText_iff.1 h, rfl⟩⟩

theorem exists_says_of_hasText {name param own text : String} {value : Json}
    (hown : HasText value own) (h : (param, text) ∈ flattenMember name value) :
    ∃ place, Says [(name, value)] place text ∧ place.paramName = param := by
  rw [flattenMember_of_hasText hown] at h
  obtain ⟨rfl, rfl⟩ := Prod.mk.inj (List.mem_singleton.1 h)
  exact ⟨.field param, .scalar List.mem_cons_self hown, rfl⟩

/-- The parameters of a field are what it says. -/
theorem mem_flattenMember_iff {name param text : String} {value : Json} :
    (param, text) ∈ flattenMember name value ↔
      ∃ place, Says [(name, value)] place text ∧ place.paramName = param := by
  constructor
  · intro h
    cases value with
    | null => exact absurd h List.not_mem_nil
    | bool b =>
      cases b with
      | true => exact exists_says_of_hasText .yes h
      | false => exact exists_says_of_hasText .no h
    | num n => exact exists_says_of_hasText (.num n) h
    | str s => exact exists_says_of_hasText (.str s) h
    | arr items =>
      rw [flattenMember_arr] at h
      split at h
      · exact absurd h List.not_mem_nil
      · rename_i hne
        obtain ⟨rfl, rfl⟩ := Prod.mk.inj (List.mem_singleton.1 h)
        exact ⟨.field param, .list List.mem_cons_self (itemTexts_iff.2 rfl) hne, rfl⟩
    | obj members =>
      obtain ⟨key, value, hmember, htext, rfl⟩ := mem_flattenMember_obj.1 h
      exact ⟨.member name key, .member List.mem_cons_self hmember htext, rfl⟩
  · rintro ⟨place, h, rfl⟩
    cases h with
    | scalar hfield h =>
      obtain ⟨rfl, rfl⟩ := Prod.mk.inj (List.mem_singleton.1 hfield)
      rw [flattenMember_of_hasText h]
      exact List.mem_singleton_self _
    | list hfield h hne =>
      obtain ⟨rfl, rfl⟩ := Prod.mk.inj (List.mem_singleton.1 hfield)
      obtain rfl := itemTexts_iff.1 h
      rw [flattenMember_arr, if_neg hne]
      exact List.mem_singleton_self _
    | member hfield hmember h =>
      obtain ⟨rfl, rfl⟩ := Prod.mk.inj (List.mem_singleton.1 hfield)
      exact mem_flattenMember_obj.2 ⟨_, _, hmember, h, rfl⟩

theorem nodup_flattenMember {name : String} {value : Json}
    (h : ∀ members, value = .obj members → (members.map Prod.fst).Nodup) :
    ((flattenMember name value).map Prod.fst).Nodup := by
  cases value with
  | null => exact List.nodup_nil
  | bool | num | str => exact List.nodup_singleton name
  | arr items =>
    rw [flattenMember_arr]
    split
    · exact List.nodup_nil
    · exact List.nodup_singleton name
  | obj members =>
    rw [flattenMember]
    refine List.pairwise_map.2 (List.pairwise_filterMap.2 ?_)
    refine (List.pairwise_map.1 (h members rfl)).imp ?_
    rintro ⟨key, value⟩ ⟨key', value'⟩ hne param hparam param' hparam' heq
    obtain ⟨text, -, rfl⟩ := Option.map_eq_some_iff.1 hparam
    obtain ⟨text', -, rfl⟩ := Option.map_eq_some_iff.1 hparam'
    exact hne (Place.member_injective heq)

/-! ## All fields -/

theorem mem_flatten_iff {fields : List (String × Json)} {param text : String} :
    (param, text) ∈ fields.flatMap (fun field => flattenMember field.1 field.2) ↔
      ∃ place, Says fields place text ∧ place.paramName = param := by
  rw [List.mem_flatMap]
  constructor
  · rintro ⟨field, hfield, h⟩
    obtain ⟨place, hsays, hname⟩ := mem_flattenMember_iff.1 h
    exact ⟨place, says_iff.2 ⟨field, hfield, hsays⟩, hname⟩
  · rintro ⟨place, h, hname⟩
    obtain ⟨field, hfield, hsays⟩ := says_iff.1 h
    exact ⟨field, hfield, mem_flattenMember_iff.2 ⟨place, hsays, hname⟩⟩

/-- The name of a parameter of a plain field tells the field. -/
theorem ownerOf_of_mem_flattenMember {name param : String} {value : Json}
    (h : '[' ∉ name.toList) (hparam : param ∈ (flattenMember name value).map Prod.fst) :
    Place.ownerOf param = name := by
  obtain ⟨⟨param, text⟩, hmem, rfl⟩ := List.mem_map.1 hparam
  obtain ⟨place, hsays, rfl⟩ := mem_flattenMember_iff.1 hmem
  obtain ⟨own, hown⟩ := owner_of_says hsays
  obtain ⟨rfl, -⟩ := Prod.mk.inj (List.mem_singleton.1 hown)
  exact Place.ownerOf_paramName h

/-- Plain fields with distinct names have parameters with distinct names: within a field the keys
tell them apart, and between two fields the owners. -/
theorem nodup_flatten {fields : List (String × Json)} (hnames : (fields.map Prod.fst).Nodup)
    (hmembers : ∀ name members, (name, Json.obj members) ∈ fields →
      (members.map Prod.fst).Nodup)
    (hplain : ∀ field ∈ fields, '[' ∉ field.1.toList) :
    ((fields.flatMap fun field => flattenMember field.1 field.2).map Prod.fst).Nodup := by
  rw [List.map_flatMap]
  refine List.pairwise_flatMap.2 ⟨?_, ?_⟩
  · rintro ⟨name, value⟩ hfield
    exact nodup_flattenMember fun members hvalue => hmembers name members (hvalue ▸ hfield)
  · refine (List.pairwise_map.1 hnames).imp_of_mem ?_
    intro field other hfield hother hne param hparam param' hparam' heq
    refine hne ?_
    rw [← ownerOf_of_mem_flattenMember (hplain field hfield) hparam, heq,
      ownerOf_of_mem_flattenMember (hplain other hother) hparam']

/-! ## What is left out -/

/-- Whether a field is null or an empty list. -/
def isVoid : Json → Bool
  | .null | .arr [] => true
  | _ => false

/-- Whether a value is a string, a truth value or a number. -/
def isScalar : Json → Bool
  | .bool _ | .num _ | .str _ => true
  | _ => false

/-- A field without what is nested in it but is no scalar. -/
def shallow : Json → Json
  | .arr items => .arr (items.filter isScalar)
  | .obj members => .obj (members.filter fun member => isScalar member.2)
  | value => value

/-- Fields without those that are null or empty, and without what is nested too deep. -/
def essential (fields : List (String × Json)) : List (String × Json) :=
  (fields.filter fun field => !isVoid field.2).map fun field => (field.1, shallow field.2)

theorem scalar?_of_not_isScalar {value : Json} (h : isScalar value = false) :
    scalar? value = none := by
  cases value with
  | null | arr | obj => rfl
  | bool | num | str => exact absurd h (by simp [isScalar])

theorem flattenMember_of_isVoid {name : String} {value : Json} (h : isVoid value = true) :
    flattenMember name value = [] := by
  cases value with
  | null => rfl
  | arr items =>
    cases items with
    | nil => rfl
    | cons => exact absurd h (by simp [isVoid])
  | bool | num | str | obj => exact absurd h (by simp [isVoid])

theorem filterMap_filter_of_none {α β : Type} {p : α → Bool} {f : α → Option β}
    (h : ∀ a, p a = false → f a = none) (as : List α) :
    (as.filter p).filterMap f = as.filterMap f := by
  rw [List.filterMap_filter]
  refine List.filterMap_congr fun a _ => ?_
  cases hp : p a with
  | true => rfl
  | false => exact (h a hp).symm

theorem flattenMember_shallow (name : String) (value : Json) :
    flattenMember name (shallow value) = flattenMember name value := by
  cases value with
  | null | bool | num | str => rfl
  | arr items =>
    have hitems : (items.filter isScalar).filterMap scalar? = items.filterMap scalar? :=
      filterMap_filter_of_none (fun _ => scalar?_of_not_isScalar) items
    rw [shallow, flattenMember_arr, flattenMember_arr, hitems]
  | obj members =>
    refine filterMap_filter_of_none ?_ members
    rintro ⟨key, value⟩ h
    exact Option.map_eq_none_iff.2 (scalar?_of_not_isScalar h)

theorem flatMap_essential (fields : List (String × Json)) :
    ((essential fields).flatMap fun field => flattenMember field.1 field.2) =
      fields.flatMap fun field => flattenMember field.1 field.2 := by
  rw [essential, List.flatMap_map]
  simp only [flattenMember_shallow]
  induction fields with
  | nil => rfl
  | cons field rest ih =>
    rw [List.flatMap_cons, ← ih]
    cases hvoid : isVoid field.2 with
    | true => rw [List.filter_cons_of_neg (by simp [hvoid]), flattenMember_of_isVoid hvoid]; rfl
    | false => rw [List.filter_cons_of_pos (by simp [hvoid]), List.flatMap_cons]

/-! ## The whole command -/

/-- Parameters are what fields say: each place that says something has a parameter of its own. -/
structure IsFlattened (fields : List (String × Json)) (params : List (String × String)) :
    Prop where
  distinct : (params.map Prod.fst).Nodup
  apart : ∀ {place other : Place} {text otherText : String}, Says fields place text →
    Says fields other otherText → place.paramName = other.paramName → place = other
  mem_iff : ∀ name text, (name, text) ∈ params ↔
    ∃ place, Says fields place text ∧ place.paramName = name

theorem paramsOf_obj (fields : List (String × Json)) :
    paramsOf (.obj fields) = .ok (fields.flatMap fun field => flattenMember field.1 field.2) := rfl

theorem isFlattened_of_sorted {fields : List (String × Json)} (h : (Json.obj fields).Sorted)
    (hplain : ∀ field ∈ fields, '[' ∉ field.1.toList) :
    IsFlattened fields (fields.flatMap fun field => flattenMember field.1 field.2) where
  distinct := nodup_flatten h.nodup_names (fun _ _ hfield => (h.of_mem hfield).nodup_names) hplain
  apart := by
    intro place other text otherText hplace hother heq
    obtain ⟨value, hvalue⟩ := owner_of_says hplace
    obtain ⟨otherValue, hotherValue⟩ := owner_of_says hother
    exact Place.paramName_injective (hplain _ hvalue) (hplain _ hotherValue) heq
  mem_iff := fun _ _ => mem_flatten_iff

/-- A call is sent with what its fields say. -/
theorem isFlattened_params {α : Type} {call : Call α}
    (h : ∀ field ∈ call.fields, field.2.Sorted)
    (hplain : ∀ field ∈ call.fields, '[' ∉ field.1.toList) :
    IsFlattened (Dictionary.ofList call.fields) call.params :=
  isFlattened_of_sorted (Json.sorted_object h) fun field hfield =>
    hplain field (Dictionary.mem_of_mem_ofList hfield)

/-- Parameters with distinct names all come into the command, and none replaces another. -/
theorem ofValue_of_distinct {value : Json} {params : List (String × String)}
    (hparams : paramsOf value = .ok params) (h : (params.map Prod.fst).Nodup) (name : String)
    (isAsync : Bool) :
    ∃ entries, ofValue name isAsync value = .ok ⟨name, isAsync, entries⟩ ∧ entries.Perm params ∧
      ∀ param text, Dictionary.find? param entries = some text ↔ (param, text) ∈ params := by
  refine ⟨Dictionary.ofList params, ?_, Dictionary.ofList_perm h, ?_⟩
  · rw [ofValue, hparams]
    rfl
  · intro param text
    rw [Dictionary.find?_ofList h, Dictionary.find?_eq_some_iff h]

/-- A command that is written as an object, with any values in it but no opening bracket in the
names of its fields, is flattened to what it says: names are distinct, each place that says
something has its parameter, and nothing else has one. What is null, empty or nested too deep
changes nothing, and the command has one parameter for each that is emitted. A command that is
written as anything but an object is refused. -/
theorem ofValue_isFlattened :
    (∀ fields : List (String × Json), (Json.obj fields).Sorted →
      (∀ field ∈ fields, '[' ∉ field.1.toList) →
        ∃ params, paramsOf (.obj fields) = .ok params ∧ IsFlattened fields params ∧
          paramsOf (.obj (essential fields)) = .ok params ∧
          ∀ (name : String) (isAsync : Bool),
            ∃ entries, ofValue name isAsync (.obj fields) = .ok ⟨name, isAsync, entries⟩ ∧
              entries.Perm params ∧
              ∀ param text, Dictionary.find? param entries = some text ↔
                (param, text) ∈ params) ∧
    ∀ value : Json, (∀ fields, value ≠ .obj fields) →
      paramsOf value = .error (.invalidCommand "command must serialize to an object") ∧
      ∀ (name : String) (isAsync : Bool), ofValue name isAsync value =
        .error (.invalidCommand "command must serialize to an object") := by
  constructor
  · intro fields h hplain
    have hflattened := isFlattened_of_sorted h hplain
    refine ⟨_, paramsOf_obj fields, hflattened, ?_, ?_⟩
    · rw [paramsOf_obj, flatMap_essential]
    · exact ofValue_of_distinct (paramsOf_obj fields) hflattened.distinct
  · intro value h
    have hobject : value.isObject = false := by
      cases value with
      | obj fields => exact absurd rfl (h fields)
      | null | bool | num | str | arr => rfl
    have hrefused := (paramsOf_eq_error_iff value).2 hobject
    refine ⟨hrefused, fun name isAsync => ?_⟩
    rw [ofValue, hrefused]
    rfl

/-- Fields of all kinds, with a key that looks like a parameter itself. -/
def sampleFields : List (String × Json) :=
  [("details", .obj [("a[0].b", .str "x"), ("cpuNumber", Json.nat 2),
      ("more", .obj [("deep", .str "y")]), ("none", .null)]),
    ("details.cpuNumber", .str "3"), ("empty", .arr []),
    ("ids", .arr [.str "n1", .null, .arr [.str "n2"], .bool true]), ("nothing", .null),
    ("start", .bool false)]

theorem sorted_sampleFields : (Json.obj sampleFields).Sorted := by
  have hmore : (Json.obj [("deep", .str "y")]).Sorted :=
    .obj (List.pairwise_singleton _ _) (List.forall_mem_singleton.2 (.str "y"))
  have hdetails : (Json.obj [("a[0].b", .str "x"), ("cpuNumber", Json.nat 2),
      ("more", .obj [("deep", .str "y")]), ("none", .null)]).Sorted := by
    refine .obj (by unfold Dictionary.Sorted; decide) ?_
    simp only [List.forall_mem_cons]
    exact ⟨.str "x", .num _, hmore, .null, by simp⟩
  have hids : (Json.arr [.str "n1", .null, .arr [.str "n2"], .bool true]).Sorted := by
    refine .arr ?_
    simp only [List.forall_mem_cons]
    exact ⟨.str "n1", .null, .arr (List.forall_mem_singleton.2 (.str "n2")), .bool true, by simp⟩
  refine .obj (by unfold Dictionary.Sorted; decide) ?_
  simp only [sampleFields, List.forall_mem_cons]
  exact ⟨hdetails, .str "3", .arr (by simp), hids, .null, .bool false, by simp⟩

theorem exists_flattened_command :
    ∃ entries, ofValue "deployVirtualMachine" true (.obj sampleFields) =
        .ok ⟨"deployVirtualMachine", true, entries⟩ ∧
      entries.Perm [("details[0].a[0].b", "x"), ("details[0].cpuNumber", "2"),
        ("details.cpuNumber", "3"), ("ids", "n1,true"), ("start", "false")] := by
  obtain ⟨params, hparams, -, -, hcommand⟩ :=
    ofValue_isFlattened.1 sampleFields sorted_sampleFields (by decide)
  obtain ⟨entries, hentries, hperm, -⟩ := hcommand "deployVirtualMachine" true
  have hlist : paramsOf (.obj sampleFields) =
      .ok [("details[0].a[0].b", "x"), ("details[0].cpuNumber", "2"),
        ("details.cpuNumber", "3"), ("ids", "n1,true"), ("start", "false")] := by rfl
  exact ⟨entries, hentries, Except.ok.inj (hparams.symm.trans hlist) ▸ hperm⟩

/-- With a bracket in its name a field can be taken for a member, and one of the two is lost. -/
example : ofValue "c" false (.obj [("a", .obj [("b", .str "1")]), ("a[0].b", .str "2")]) =
    .ok ⟨"c", false, [("a[0].b", "2")]⟩ := rfl

end Command

end ControlPlane
