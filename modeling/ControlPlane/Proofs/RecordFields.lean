import ControlPlane.Proofs.SettingsRanges

/-!
# Reading records field by field

A record that comes as an object is read through the look-up of its members
(`Shape.decode_obj_eq_ok`), and a field reads its own member only (`FieldReader.required_congr`,
`FieldReader.optional_congr`). So a record is read as it was written if each of its fields is
(`Shape.decode_object`), and if one field cannot be read and all others can, then the problem of
that field is all that is reported (`FieldReader.seq_eq_error`).
-/

namespace ControlPlane

namespace Dictionary

variable {α : Type}

theorem mem_of_find? {key : String} {value : α} {entries : Dictionary α}
    (h : find? key entries = some value) : (key, value) ∈ entries := by
  induction entries with
  | nil => exact absurd h (by simp)
  | cons entry rest ih =>
    obtain ⟨name, own⟩ := entry
    by_cases hname : name = key
    · rw [find?, if_pos hname] at h
      rw [hname, Option.some.inj h]
      exact List.mem_cons_self
    · rw [find?, if_neg hname] at h
      exact List.mem_cons_of_mem _ (ih h)

/-- Of entries with different keys, each is found under its key. -/
theorem find?_eq_some_iff {entries : List (String × α)} (h : (entries.map Prod.fst).Nodup)
    {key : String} {value : α} : find? key entries = some value ↔ (key, value) ∈ entries := by
  refine ⟨mem_of_find?, fun hmem => ?_⟩
  induction entries with
  | nil => exact absurd hmem List.not_mem_nil
  | cons entry rest ih =>
    obtain ⟨hnew, hrest⟩ := List.nodup_cons.1 h
    rcases List.mem_cons.1 hmem with rfl | hmem
    · rw [find?, if_pos rfl]
    · have hne : entry.1 ≠ key := fun heq => hnew (heq ▸ List.mem_map_of_mem hmem)
      rw [find?, if_neg hne]
      exact ih hrest hmem

/-- Of entries with different keys, each is found in the dictionary that they make. -/
theorem find?_ofList {entries : List (String × α)} (h : (entries.map Prod.fst).Nodup)
    (key : String) : find? key (ofList entries) = find? key entries := by
  have hfold : ∀ acc : Dictionary α,
      find? key (entries.foldl (fun acc entry => insert entry.1 entry.2 acc) acc) =
        (find? key entries).or (find? key acc) := by
    induction entries with
    | nil => exact fun _ => rfl
    | cons entry rest ih =>
      obtain ⟨name, value⟩ := entry
      obtain ⟨hnew, hrest⟩ := List.nodup_cons.1 h
      intro acc
      rw [List.foldl_cons, ih hrest, find?_insert, find?]
      by_cases hname : name = key
      · subst hname
        have hnone : find? name rest = none := by
          cases hfound : find? name rest with
          | none => rfl
          | some found => exact absurd (List.mem_map.2 ⟨_, mem_of_find? hfound, rfl⟩) hnew
        rw [hnone, if_pos rfl, if_pos rfl]
        rfl
      · rw [if_neg hname, if_neg (Ne.symm hname)]
  rw [ofList, hfold, find?_nil, Option.or_none]

end Dictionary

namespace Json

variable {α β : Type}

namespace Shape

variable {shape : Shape} {surplus : Surplus} {reader : FieldReader α}
  {members : List (String × Json)}

theorem decode_obj_eq_ok {a : α} :
    shape.decode surplus reader (.obj members) = .ok a ↔
      reader (fun name => Dictionary.find? name members) = .ok a := by
  simp only [decode]
  cases reader fun name => Dictionary.find? name members with
  | ok own => simp
  | error problems => simp

theorem decode_obj_of_error {problems : List (String × Problem)}
    (h : reader (fun name => Dictionary.find? name members) = .error problems) :
    shape.decode surplus reader (.obj members) = .error (firstByName problems) := by
  simp only [decode, h]

/-- A record is read as it was written if its fields are. -/
theorem decode_object {fields : List (String × Json)} {a : α}
    (hnames : fields.map Prod.fst = shape.fields) (hnodup : shape.fields.Nodup)
    (h : reader (fun name => Dictionary.find? name fields) = .ok a) :
    shape.decode surplus reader (Json.object fields) = .ok a := by
  refine decode_obj_eq_ok.2 ?_
  rwa [funext fun name => Dictionary.find?_ofList (hnames.symm ▸ hnodup) name]

end Shape

/-- A text that may be absent is read as it was written. -/
theorem decodeOptional_optional (found : Option String) :
    decodeOptional decodeText (Json.optional found) = .ok found := by
  cases found with
  | none => rfl
  | some text => rfl

/-- A number in range is read as it was written. -/
theorem decodeUnsigned_nat {type : String} {bound n : Nat} (h : n ≤ bound) :
    decodeUnsigned type bound (Json.nat n) = .ok n := if_pos h

namespace FieldReader

variable {look : String → Option Json}

theorem map_ok {x : FieldReader α} {a : α} (g : α → β) (h : x look = .ok a) :
    (g <$> x) look = .ok (g a) := map_eq_ok.2 ⟨a, h, rfl⟩

theorem seq_ok {f : FieldReader (α → β)} {x : FieldReader α} {g : α → β} {a : α}
    (hf : f look = .ok g) (hx : x look = .ok a) : (f <*> x) look = .ok (g a) :=
  seq_eq_ok.2 ⟨g, a, hf, hx, rfl⟩

theorem report_eq_ok {name : String} {found : Decoded α} {a : α} :
    report name found = .ok a ↔ found = .ok a := by
  cases found with
  | ok own => simp [report]
  | error error => simp [report]

section Found

variable {name : String} {value : Json} {item : Json → Decoded α} {a : α}

theorem required_ok (h : look name = some value) (hitem : item value = .ok a) :
    required name item look = .ok a := by
  simp only [required, h, report_eq_ok, hitem]

theorem withDefault_ok (h : look name = some value) (default : α) (hitem : item value = .ok a) :
    withDefault name default item look = .ok a := by
  simp only [withDefault, h, report_eq_ok, hitem]

theorem optional_ok {found : Option α} (h : look name = some value)
    (hitem : decodeOptional item value = .ok found) : optional name item look = .ok found :=
  withDefault_ok h none hitem

end Found

theorem map_eq_error {g : α → β} {x : FieldReader α} {problems : List (String × Problem)}
    (h : x look = .error problems) : (g <$> x) look = .error problems := by
  show FieldReader.seq (FieldReader.pure g) (fun _ => x) look = _
  simp only [FieldReader.seq, FieldReader.pure, h]

/-- A field that can be read adds no problem. -/
theorem seq_eq_error {f : FieldReader (α → β)} {x : FieldReader α} {a : α}
    {problems : List (String × Problem)} (h : f look = .error problems) (hx : x look = .ok a) :
    (f <*> x) look = .error problems := by
  show FieldReader.seq f (fun _ => x) look = _
  simp only [FieldReader.seq, h, hx]

theorem required_congr {look' : String → Option Json} {name : String} (h : look name = look' name)
    (item : Json → Decoded α) : required name item look = required name item look' := by
  simp only [required, h]

theorem optional_congr {look' : String → Option Json} {name : String} (h : look name = look' name)
    (item : Json → Decoded α) : optional name item look = optional name item look' := by
  simp only [optional, withDefault, h]

end FieldReader

end Json

end ControlPlane
