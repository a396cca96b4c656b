import ControlPlane.Proofs.RecordFields
import Mathlib.Logic.Relation

/-!
# Records that say the same

Members with unknown names may be added to a record, and members that are null may be left out;
the same goes for records inside a record. These are the edits of a record (`Json.Shape.Edits`). A
record that is read is read alike after an edit if its fields are (`Json.Shape.decode_of_edits`),
and the fields that this project has are (`Json.FieldReader.tolerates_required` and what follows).

`Json.RoundTrips` says of a kind of record that reading undoes writing, and that edits do not
matter.
-/

namespace ControlPlane

namespace Dictionary

variable {α : Type}

/-- Takes out what is under a key. -/
def erase (key : String) (entries : Dictionary α) : Dictionary α :=
  entries.filter fun entry => entry.1 ≠ key

theorem find?_erase (key key' : String) (entries : Dictionary α) :
    find? key' (erase key entries) = if key' = key then none else find? key' entries := by
  induction entries with
  | nil => simp [erase]
  | cons entry rest ih =>
    obtain ⟨name, value⟩ := entry
    unfold erase at ih ⊢
    rw [List.filter_cons]
    by_cases hname : name = key
    · subst hname
      by_cases hkey : key' = name
      · simpa [hkey] using ih
      · simpa [hkey, find?, Ne.symm hkey] using ih
    · by_cases hkey : key' = key
      · subst hkey
        simpa [hname, find?] using ih
      · by_cases hfound : name = key'
        · simp [find?, hfound, hkey]
        · simpa [hname, find?, hfound, hkey] using ih

end Dictionary

namespace Json

variable {α β : Type}

/-! ## Edits -/

/-- An edit of a record: a member with an unknown name is added, a member that is null is left out,
or the value of a member is edited in its own way. -/
inductive Shape.Edits (shape : Shape) (inner : String → Json → Json → Prop) : Json → Json → Prop
  | add {name : String} (value : Json) (members : List (String × Json))
    (h : name ∉ shape.fields) :
    Edits shape inner (.obj members) (.obj (Dictionary.insert name value members))
  | drop {name : String} {members : List (String × Json)}
    (h : Dictionary.find? name members = some .null) :
    Edits shape inner (.obj members) (.obj (Dictionary.erase name members))
  | within {name : String} {value value' : Json} {members : List (String × Json)}
    (h : Dictionary.find? name members = some value) (hvalue : inner name value value') :
    Edits shape inner (.obj members) (.obj (Dictionary.insert name value' members))

/-- An edit of a record whose members are not records. -/
def Shape.FlatEdits (shape : Shape) : Json → Json → Prop :=
  shape.Edits fun _ _ _ => False

/-- An edit of an item of a list. -/
inductive ItemEdits (inner : Json → Json → Prop) : Json → Json → Prop
  | item (before after : List Json) {value value' : Json} (h : inner value value') :
    ItemEdits inner (.arr (before ++ value :: after)) (.arr (before ++ value' :: after))

/-- What an edit makes of one member. -/
inductive Eased (inner : Json → Json → Prop) : Option Json → Option Json → Prop
  | same (found : Option Json) : Eased inner found found
  | dropped : Eased inner (some .null) none
  | edited {value value' : Json} (h : inner value value') : Eased inner (some value) (some value')

theorem Shape.eased_of_edits {shape : Shape} {inner : String → Json → Json → Prop}
    {value value' : Json} (h : shape.Edits inner value value') :
    ∃ members members', value = .obj members ∧ value' = .obj members' ∧
      ∀ name ∈ shape.fields, Eased (inner name) (Dictionary.find? name members)
        (Dictionary.find? name members') := by
  cases h with
  | add added members hname =>
    refine ⟨_, _, rfl, rfl, ?_⟩
    intro name hmem
    rw [Dictionary.find?_insert, if_neg (by rintro rfl; exact hname hmem)]
    exact .same _
  | @drop dropped members hnull =>
    refine ⟨_, _, rfl, rfl, ?_⟩
    intro name hmem
    rw [Dictionary.find?_erase]
    by_cases hname : name = dropped
    · rw [if_pos hname, hname, hnull]
      exact .dropped
    · rw [if_neg hname]
      exact .same _
  | @within edited own own' members hfound hvalue =>
    refine ⟨_, _, rfl, rfl, ?_⟩
    intro name hmem
    rw [Dictionary.find?_insert]
    by_cases hname : name = edited
    · rw [if_pos hname, hname, hfound]
      exact .edited hvalue
    · rw [if_neg hname]
      exact .same _

/-! ## Fields -/

namespace FieldReader

variable {names : List String} {inner : String → Json → Json → Prop} {name : String}
  {item : Json → Decoded α}

/-- What is read from members is read from eased ones too. -/
def Tolerates (names : List String) (inner : String → Json → Json → Prop)
    (reader : FieldReader α) : Prop :=
  ∀ {look look' : String → Option Json} {a : α},
    (∀ name ∈ names, Eased (inner name) (look name) (look' name)) →
      reader look = .ok a → reader look' = .ok a

theorem tolerates_map {x : FieldReader α} (g : α → β) (hx : x.Tolerates names inner) :
    (g <$> x).Tolerates names inner := by
  intro look look' b heased hread
  obtain ⟨a, ha, rfl⟩ := map_eq_ok.1 hread
  exact map_eq_ok.2 ⟨a, hx heased ha, rfl⟩

theorem tolerates_seq {f : FieldReader (α → β)} {x : FieldReader α}
    (hf : f.Tolerates names inner) (hx : x.Tolerates names inner) :
    (f <*> x).Tolerates names inner := by
  intro look look' b heased hread
  obtain ⟨g, a, hg, ha, rfl⟩ := seq_eq_ok.1 hread
  exact seq_eq_ok.2 ⟨g, a, hf heased hg, hx heased ha, rfl⟩

section Field

variable (hname : name ∈ names)
  (hedited : ∀ {value value' a}, inner name value value' → item value = .ok a → item value' = .ok a)

include hname hedited

/-- A field that has to be present must not be null. -/
theorem tolerates_required (hnull : ∀ a, item .null ≠ .ok a) :
    (required name item).Tolerates names inner := by
  intro look look' a heased hread
  have hmember := heased name hname
  unfold required at hread ⊢
  cases hfound : look name with
  | none => rw [hfound] at hread; exact absurd hread (by simp)
  | some value =>
    rw [hfound] at hread hmember
    rw [report_eq_ok] at hread
    generalize look' name = found' at hmember ⊢
    cases hmember with
    | same => exact report_eq_ok.2 hread
    | dropped => exact absurd hread (hnull a)
    | edited h => exact report_eq_ok.2 (hedited h hread)

/-- If null is read at all for a field with a default, it has to be read as the default. -/
theorem tolerates_withDefault (default : α) (hnull : ∀ a, item .null = .ok a → a = default) :
    (withDefault name default item).Tolerates names inner := by
  intro look look' a heased hread
  have hmember := heased name hname
  unfold withDefault at hread ⊢
  cases hfound : look name with
  | none =>
    rw [hfound] at hread hmember
    generalize look' name = found' at hmember ⊢
    cases hmember with
    | same => exact hread
  | some value =>
    rw [hfound] at hread hmember
    rw [report_eq_ok] at hread
    generalize look' name = found' at hmember ⊢
    cases hmember with
    | same => exact report_eq_ok.2 hread
    | dropped => exact congrArg Except.ok (hnull a hread).symm
    | edited h => exact report_eq_ok.2 (hedited h hread)

end Field

/-- Null and nothing are alike for a field that may be absent. -/
theorem tolerates_optional (hname : name ∈ names)
    (hedited : ∀ {value value' a}, inner name value value' → decodeOptional item value = .ok a →
      decodeOptional item value' = .ok a) :
    (optional name item).Tolerates names inner :=
  tolerates_withDefault hname hedited none fun _ h => (Except.ok.inj h).symm

/-! A field that is not edited. -/

section Untouched

variable (hname : name ∈ names) (h : ∀ value value', ¬ inner name value value')

include hname h

theorem tolerates_required_of_not (hnull : ∀ a, item .null ≠ .ok a) :
    (required name item).Tolerates names inner :=
  tolerates_required hname (fun hedit _ => absurd hedit (h _ _)) hnull

theorem tolerates_withDefault_of_not (default : α) (hnull : ∀ a, item .null ≠ .ok a) :
    (withDefault name default item).Tolerates names inner :=
  tolerates_withDefault hname (fun hedit _ => absurd hedit (h _ _)) default
    fun a ha => absurd ha (hnull a)

theorem tolerates_optional_of_not : (optional name item).Tolerates names inner :=
  tolerates_optional hname fun hedit _ => absurd hedit (h _ _)

end Untouched

end FieldReader

/-! ## Records -/

/-- A record is read alike after an edit. -/
theorem Shape.decode_of_edits {shape : Shape} {surplus : Surplus} {reader : FieldReader α}
    {inner : String → Json → Json → Prop} (hreader : reader.Tolerates shape.fields inner)
    {value value' : Json} (h : shape.Edits inner value value') {a : α}
    (hread : shape.decode surplus reader value = .ok a) :
    shape.decode surplus reader value' = .ok a := by
  obtain ⟨members, members', rfl, rfl, heased⟩ := shape.eased_of_edits h
  exact decode_obj_eq_ok.2 (hreader heased (decode_obj_eq_ok.1 hread))

/-- So is a record that may be absent. -/
theorem decodeOptional_of_edits {shape : Shape} {inner : String → Json → Json → Prop}
    {item : Json → Decoded α} {value value' : Json} (h : shape.Edits inner value value')
    (hitem : ∀ a, item value = .ok a → item value' = .ok a) {found : Option α}
    (hread : decodeOptional item value = .ok found) : decodeOptional item value' = .ok found := by
  obtain ⟨members, members', rfl, rfl, -⟩ := shape.eased_of_edits h
  simp only [decodeOptional] at hread ⊢
  cases hvalue : item (.obj members) with
  | error error => rw [hvalue] at hread; exact absurd hread (by simp [Except.map])
  | ok a => rwa [hitem a hvalue, ← hvalue]

/-- So is a list of records. -/
theorem decodeList_of_itemEdits {item : Json → Decoded α} {inner : Json → Json → Prop}
    (hitem : ∀ value value' a, inner value value' → item value = .ok a → item value' = .ok a)
    {value value' : Json} (h : ItemEdits inner value value') {as : List α}
    (hread : decodeList item value = .ok as) : decodeList item value' = .ok as := by
  cases h with
  | @item before after value value' h =>
    simp only [decodeList] at hread ⊢
    induction before generalizing as with
    | nil =>
      simp only [List.nil_append, List.mapM_cons] at hread ⊢
      cases hvalue : item value with
      | error error => rw [hvalue] at hread; exact absurd hread (by simp [bind, Except.bind])
      | ok a => rw [hitem _ _ _ h hvalue, ← hread, hvalue]
    | cons first before ih =>
      simp only [List.cons_append, List.mapM_cons] at hread ⊢
      cases hfirst : item first with
      | error error => rw [hfirst] at hread; exact absurd hread (by simp [bind, Except.bind])
      | ok a =>
        cases hrest : (before ++ value :: after).mapM item with
        | error error =>
          rw [hfirst, hrest] at hread
          exact absurd hread (by simp [bind, Except.bind])
        | ok rest =>
          rw [hfirst, hrest] at hread
          rw [ih hrest]
          exact hread

theorem decodeOptional_ne_some_null (value : Json) :
    decodeOptional raw value ≠ .ok (some .null) := by
  cases value <;> simp [decodeOptional, raw, Except.map]

theorem isSigned64_of_decodeSigned64 {value : Json} {i : Int} (h : decodeSigned64 value = .ok i) :
    Number.isSigned64 i = true := by
  unfold decodeSigned64 at h
  split at h
  · split at h
    · rename_i hin
      exact Except.ok.inj h ▸ hin
    · exact absurd h (by simp)
  · exact absurd h (by simp)

/-- A list of values that can be read back. -/
theorem decodeList_map {item : Json → Decoded α} {encode : α → Json} {as : List α}
    (h : ∀ a ∈ as, item (encode a) = .ok a) : decodeList item (.arr (as.map encode)) = .ok as := by
  unfold decodeList
  induction as with
  | nil => rfl
  | cons a as ih =>
    simp only [List.map_cons, List.mapM_cons, h a List.mem_cons_self,
      ih fun b hb => h b (List.mem_cons_of_mem _ hb)]
    rfl

/-- Reading undoes writing, everything that is read can be written, and edits do not matter. -/
structure RoundTrips (edits : Json → Json → Prop) (valid : α → Prop) (encode : α → Json)
    (decode : Json → Decoded α) : Prop where
  decode_encode : ∀ a, valid a → decode (encode a) = .ok a
  valid_of_decode : ∀ value a, decode value = .ok a → valid a
  edited : ∀ value value' a, Relation.ReflTransGen edits value value' →
    decode value = .ok a → decode value' = .ok a

/-- One edit after another. -/
theorem roundTrips_of_edit {edits : Json → Json → Prop} {valid : α → Prop} {encode : α → Json}
    {decode : Json → Decoded α} (hencode : ∀ a, valid a → decode (encode a) = .ok a)
    (hvalid : ∀ value a, decode value = .ok a → valid a)
    (hedit : ∀ {value value' a}, edits value value' → decode value = .ok a →
      decode value' = .ok a) : RoundTrips edits valid encode decode := by
  refine ⟨hencode, hvalid, ?_⟩
  intro value value' a hedits hread
  induction hedits with
  | refl => exact hread
  | tail _ h ih => exact hedit h ih

end Json

end ControlPlane
