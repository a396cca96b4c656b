import ControlPlane.Command.Catalogue
import ControlPlane.Proofs.ParallelClients
import Mathlib.Logic.Relator

/-!
# Decoding like replies

Two JSON values are alike if they differ in the strings of members named `secretkey` only, at
whatever depth these stand (`Json.Alike`). Decoders of like values come to related records, or to an
error from both: fields are read by name, and only the name of a secret stands for values that
differ (`Json.FieldReader.Respects`, `Json.Shape.respects_decode`). From this follows for each kind
of record that it is the same up to secrets (`Account.respects_ofJson`, `KeyPair.respects_ofJson`).
-/

namespace ControlPlane

namespace Json

variable {secret : String → String → Prop}

/-- The name of members that hold secrets. -/
def secretMember : String := "secretkey"

/-! ## Like values -/

mutual

/-- Two values that differ in secrets only. -/
inductive Alike (secret : String → String → Prop) : Json → Json → Prop
  | null : Alike secret .null .null
  | bool (b : Bool) : Alike secret (.bool b) (.bool b)
  | num (n : JsonNumber) : Alike secret (.num n) (.num n)
  | str (s : String) : Alike secret (.str s) (.str s)
  | arr {items items' : List Json} (h : List.Forall₂ (Alike secret) items items') :
    Alike secret (.arr items) (.arr items')
  | obj {members members' : List (String × Json)}
    (h : List.Forall₂ (MemberAlike secret) members members') :
    Alike secret (.obj members) (.obj members')

/-- Two members of one name, with like values or, if the name is that of a secret, with strings in a
relation. -/
inductive MemberAlike (secret : String → String → Prop) : String × Json → String × Json → Prop
  | value (name : String) {x y : Json} (h : Alike secret x y) :
    MemberAlike secret (name, x) (name, y)
  | secret {s t : String} (h : secret s t) :
    MemberAlike secret (secretMember, .str s) (secretMember, .str t)

end

mutual

theorem alike_refl : ∀ value : Json, Alike secret value value
  | .null => .null
  | .bool b => .bool b
  | .num n => .num n
  | .str s => .str s
  | .arr items => .arr (forall₂_alike_refl items)
  | .obj members => .obj (forall₂_memberAlike_refl members)

theorem forall₂_alike_refl : ∀ items : List Json, List.Forall₂ (Alike secret) items items
  | [] => .nil
  | item :: items => .cons (alike_refl item) (forall₂_alike_refl items)

theorem forall₂_memberAlike_refl :
    ∀ members : List (String × Json), List.Forall₂ (MemberAlike secret) members members
  | [] => .nil
  | (name, value) :: members =>
    .cons (.value name (alike_refl value)) (forall₂_memberAlike_refl members)

end

/-! ## Looking up -/

/-- Two look-ups that find like values under every name, but for secrets. -/
def LooksAlike (secret : String → String → Prop) (look look' : String → Option Json) : Prop :=
  ∀ name, Option.Rel (fun x y => MemberAlike secret (name, x) (name, y)) (look name) (look' name)

theorem looksAlike_find? {members members' : List (String × Json)}
    (h : List.Forall₂ (MemberAlike secret) members members') :
    LooksAlike secret (fun name => Dictionary.find? name members)
      (fun name => Dictionary.find? name members') := by
  intro name
  induction h with
  | nil => exact .none
  | @cons member member' _ _ hmember _ ih =>
    obtain ⟨key, x⟩ := member
    obtain ⟨key', y⟩ := member'
    obtain rfl : key = key' := by cases hmember <;> rfl
    simp only [Dictionary.find?]
    split
    · rename_i hkey
      exact .some (hkey ▸ hmember)
    · exact ih

theorem looksAlike_getElem? {items items' : List Json}
    (h : List.Forall₂ (Alike secret) items items') (place : String → Nat) :
    LooksAlike secret (fun name => items[place name]?) (fun name => items'[place name]?) :=
  fun name => rel_imp (rel_getElem? h (place name)) fun _ _ hitem => .value name hitem

theorem alike_of_memberAlike {name : String} (hname : name ≠ secretMember) {x y : Json}
    (h : MemberAlike secret (name, x) (name, y)) : Alike secret x y := by
  generalize hmember : (name, x) = member at h
  generalize hmember' : (name, y) = member' at h
  cases h with
  | value name' h =>
    cases hmember
    cases hmember'
    exact h
  | secret h =>
    cases hmember
    exact absurd rfl hname

/-- Results that are related values, or errors of whatever kind. -/
abbrev Agree {ε α β : Type} (V : α → β → Prop) : Except ε α → Except ε β → Prop :=
  Results (fun _ _ => True) V

/-- A decoder that comes to related values from like ones. -/
def Respects {α : Type} (secret : String → String → Prop) (V : α → α → Prop)
    (item : Json → Decoded α) : Prop :=
  ∀ x y, Alike secret x y → Agree V (item x) (item y)

section Decoders

variable {α : Type} {V : α → α → Prop} {item : Json → Decoded α}

theorem agree_eq {ε : Type} (result : Except ε α) : Agree Eq result result := by
  cases result with
  | ok a => exact .ok rfl
  | error e => exact .error trivial

theorem Respects.imp {W : α → α → Prop} (h : Respects secret V item)
    (hvalue : ∀ a b, V a b → W a b) : Respects secret W item :=
  fun x y hxy => (h x y hxy).imp (fun _ _ herror => herror) hvalue

/-- What decodes neither lists nor objects never comes to a secret. -/
theorem respects_of_scalar (harr : ∀ items, ∃ e, item (.arr items) = .error e)
    (hobj : ∀ members, ∃ e, item (.obj members) = .error e) : Respects secret Eq item := by
  intro x y h
  cases h with
  | null | bool | num | str => exact agree_eq _
  | @arr items items' =>
    obtain ⟨e, he⟩ := harr items
    obtain ⟨e', he'⟩ := harr items'
    rw [he, he']
    exact .error trivial
  | @obj members members' =>
    obtain ⟨e, he⟩ := hobj members
    obtain ⟨e', he'⟩ := hobj members'
    rw [he, he']
    exact .error trivial

theorem respects_decodeText : Respects secret Eq decodeText :=
  respects_of_scalar (fun _ => ⟨_, rfl⟩) (fun _ => ⟨_, rfl⟩)

theorem respects_decodeUnsigned (type : String) (bound : Nat) :
    Respects secret Eq (decodeUnsigned type bound) :=
  respects_of_scalar (fun _ => ⟨_, rfl⟩) (fun _ => ⟨_, rfl⟩)

theorem respects_decodeOptional (h : Respects secret V item) :
    Respects secret (Option.Rel V) (decodeOptional item) := by
  have hsome : ∀ x y, Alike secret x y →
      Agree (Option.Rel V) ((item x).map some) ((item y).map some) := fun x y hxy =>
    (h x y hxy).map fun _ _ => .some
  intro x y hxy
  cases hxy with
  | null => exact .ok .none
  | bool b => exact hsome _ _ (.bool b)
  | num n => exact hsome _ _ (.num n)
  | str s => exact hsome _ _ (.str s)
  | arr hitems => exact hsome _ _ (.arr hitems)
  | obj hmembers => exact hsome _ _ (.obj hmembers)

theorem agree_mapM (h : Respects secret V item) {items items' : List Json}
    (hitems : List.Forall₂ (Alike secret) items items') :
    Agree (List.Forall₂ V) (items.mapM item) (items'.mapM item) := by
  induction hitems with
  | nil => exact .ok .nil
  | @cons x y xs ys hxy _ ih =>
    rw [List.mapM_cons, List.mapM_cons]
    have hfirst := h x y hxy
    revert hfirst ih
    generalize item x = first
    generalize item y = first'
    generalize xs.mapM item = rest
    generalize ys.mapM item = rest'
    rintro (hrest | hrest) (hfirst | hfirst)
    · exact .ok (.cons hfirst hrest)
    · exact .error hfirst
    · exact .error hrest
    · exact .error hfirst

theorem respects_decodeList (h : Respects secret V item) :
    Respects secret (List.Forall₂ V) (decodeList item) := by
  intro x y hxy
  cases hxy with
  | arr hitems => exact agree_mapM h hitems
  | null | bool | num | str | obj => exact .error trivial

end Decoders

/-! ## Records -/

namespace FieldReader

variable {α β : Type} {V : α → α → Prop} {W : β → β → Prop}

/-- A reader of fields that comes to related values from like look-ups. -/
def Respects (secret : String → String → Prop) (V : α → α → Prop) (reader : FieldReader α) : Prop :=
  ∀ look look', LooksAlike secret look look' → Agree V (reader look) (reader look')

theorem Respects.seq {f : FieldReader (α → β)} {reader : FieldReader α}
    (hf : f.Respects secret (Relator.LiftFun V W)) (h : reader.Respects secret V) :
    FieldReader.Respects secret W (f <*> reader) := by
  intro look look' hlook
  have hfirst := hf look look' hlook
  have hsecond := h look look' hlook
  change Agree W (FieldReader.seq f (fun _ => reader) look)
    (FieldReader.seq f (fun _ => reader) look')
  rw [FieldReader.seq, FieldReader.seq]
  revert hfirst hsecond
  generalize f look = first
  generalize f look' = first'
  generalize reader look = second
  generalize reader look' = second'
  rintro (hfirst | -) (hsecond | -)
  · exact .ok (hfirst hsecond)
  · exact .error trivial
  · exact .error trivial
  · exact .error trivial

/-- What is made of the first field. -/
theorem Respects.map {f : α → β} (hf : Relator.LiftFun V W f f) {reader : FieldReader α}
    (h : reader.Respects secret V) : FieldReader.Respects secret W (f <$> reader) :=
  Respects.seq (f := FieldReader.pure f) (fun _ _ _ => .ok hf) h

variable {name : String} {item : Json → Decoded α}

theorem required_eq (look : String → Option Json) : required name item look =
    (look name).elim (.error [(name, .missing)]) fun value => report name (item value) := by
  rw [required]
  cases look name <;> rfl

theorem withDefault_eq (default : α) (look : String → Option Json) :
    withDefault name default item look =
      (look name).elim (.ok default) fun value => report name (item value) := by
  rw [withDefault]
  cases look name <;> rfl

/-- A field is read alike from what is found alike. -/
theorem agree_elim {R : Json → Json → Prop} {found found' : Option Json}
    (h : Option.Rel R found found') (hread : ∀ x y, R x y → Agree V (item x) (item y))
    {absent : Except (List (String × Problem)) α} (habsent : Agree V absent absent) :
    Agree V (found.elim absent fun value => report name (item value))
      (found'.elim absent fun value => report name (item value)) := by
  cases h with
  | none => exact habsent
  | @some x y h =>
    have hvalue := hread x y h
    change Agree V (report name (item x)) (report name (item y))
    revert hvalue
    generalize item x = result
    generalize item y = result'
    rintro (hvalue | -)
    · exact .ok hvalue
    · exact .error trivial

theorem respects_required (hname : name ≠ secretMember) (h : Json.Respects secret V item) :
    (required name item).Respects secret V := by
  intro look look' hlook
  rw [required_eq, required_eq]
  exact agree_elim (hlook name) (fun _ _ hxy => h _ _ (alike_of_memberAlike hname hxy))
    (.error trivial)

theorem respects_withDefault (hname : name ≠ secretMember) {default : α}
    (hdefault : V default default) (h : Json.Respects secret V item) :
    (withDefault name default item).Respects secret V := by
  intro look look' hlook
  rw [withDefault_eq, withDefault_eq]
  exact agree_elim (hlook name) (fun _ _ hxy => h _ _ (alike_of_memberAlike hname hxy))
    (.ok hdefault)

theorem respects_optional (hname : name ≠ secretMember) (h : Json.Respects secret Eq item) :
    (optional name item).Respects secret Eq := by
  have hitem := respects_decodeOptional h
  rw [rel_eq_eq] at hitem
  exact respects_withDefault hname rfl hitem

theorem respects_requiredText (hname : name ≠ secretMember) :
    (required name decodeText).Respects secret Eq :=
  respects_required hname respects_decodeText

theorem respects_optionalText (hname : name ≠ secretMember) :
    (optional name decodeText).Respects secret Eq :=
  respects_optional hname respects_decodeText

section Secrets

variable (hsame : ∀ s, secret s s)
include hsame

theorem respects_required_secret : (required secretMember decodeText).Respects secret secret := by
  intro look look' hlook
  rw [required_eq, required_eq]
  refine agree_elim (hlook secretMember) (fun x y h => ?_) (.error trivial)
  cases h with
  | value _ h => exact (respects_decodeText x y h).imp (fun _ _ he => he) fun _ _ hs => hs ▸ hsame _
  | secret h => exact .ok h

theorem respects_optional_secret :
    (optional secretMember decodeText).Respects secret (Option.Rel secret) := by
  intro look look' hlook
  rw [optional, withDefault_eq, withDefault_eq]
  refine agree_elim (hlook secretMember) (fun x y h => ?_) (.ok .none)
  cases h with
  | value _ h =>
    exact respects_decodeOptional (respects_decodeText.imp fun _ _ hs => hs ▸ hsame _) x y h
  | secret h => exact .ok (.some h)

end Secrets

end FieldReader

theorem Shape.respects_decode {α : Type} {V : α → α → Prop} (shape : Shape) (surplus : Surplus)
    {reader : FieldReader α} (h : reader.Respects secret V) :
    Respects secret V (shape.decode surplus reader) := by
  intro x y hxy
  cases hxy with
  | null | bool | num | str => exact .error trivial
  | @arr items items' hitems =>
    -- an array has its fields in the order of declaration, the same in both values
    have hfields := h _ _ (looksAlike_getElem? hitems fun name => shape.fields.idxOf name)
    rw [Shape.decode, Shape.decode, ← hitems.length_eq]
    revert hfields
    generalize reader (fun name => items[shape.fields.idxOf name]?) = result
    generalize reader (fun name => items'[shape.fields.idxOf name]?) = result'
    rintro (hfields | -)
    · dsimp only
      split
      · exact .error trivial
      · exact .ok hfields
    · exact .error trivial
  | @obj members members' hmembers =>
    have hfields := h _ _ (looksAlike_find? hmembers)
    rw [Shape.decode, Shape.decode]
    revert hfields
    generalize reader (fun name => Dictionary.find? name members) = result
    generalize reader (fun name => Dictionary.find? name members') = result'
    rintro (hfields | -)
    · exact .ok hfields
    · exact .error trivial

end Json

/-! ## Records of the control plane -/

section Records

open Json FieldReader

variable {secret : String → String → Prop} {α : Type} {V : α → α → Prop}
  {item : Json → Decoded α}

theorem AccountType.respects_ofJson : Respects secret Eq AccountType.ofJson :=
  respects_of_scalar (fun _ => ⟨_, rfl⟩) (fun _ => ⟨_, rfl⟩)

theorem Domain.respects_ofJson : Respects secret Eq Domain.ofJson := by
  refine Shape.respects_decode _ _ (.seq (.seq (.seq (.seq (.map ?_
    (respects_requiredText (by decide))) (respects_requiredText (by decide)))
    (respects_optionalText (by decide))) (respects_optionalText (by decide)))
    (respects_optional (by decide) (respects_decodeUnsigned _ _)))
  rintro _ _ rfl _ _ rfl _ _ rfl _ _ rfl _ _ rfl
  rfl

theorem Listing.respects_ofJson {member : String} (hmember : member ≠ secretMember)
    (title : String) (h : Respects secret V item) :
    Respects secret (Listing.Agree V) (Listing.ofJson title member item) := by
  refine Shape.respects_decode _ _ (.seq (.map ?_
    (respects_optional (by decide) (respects_decodeUnsigned _ _)))
    (respects_withDefault hmember .nil (respects_decodeList h)))
  rintro count _ rfl items items' hitems
  exact ⟨rfl, hitems⟩

variable (hsame : ∀ s, secret s s)
include hsame

theorem KeyPair.respects_ofJson : Respects secret (KeyPair.Agree secret) KeyPair.ofJson := by
  refine Shape.respects_decode _ _ (.seq (.map ?_ (respects_requiredText (by decide)))
    (respects_required_secret hsame))
  rintro apiKey _ rfl s t h
  exact ⟨rfl, h⟩

theorem User.respects_ofJson : Respects secret (User.Agree secret) User.ofJson := by
  have htext : ∀ {name : String}, name ≠ secretMember →
      (optional name decodeText).Respects secret Eq := respects_optionalText
  refine Shape.respects_decode _ _ (.seq (.seq (.seq (.seq (.seq (.seq (.seq (.seq (.seq (.seq
    (.seq (.map ?_ (respects_requiredText (by decide))) (respects_requiredText (by decide)))
    (htext (by decide))) (htext (by decide))) (htext (by decide)))
    (respects_optional (by decide) AccountType.respects_ofJson)) (htext (by decide)))
    (htext (by decide))) (htext (by decide))) (htext (by decide))) (htext (by decide)))
    (respects_optional_secret hsame))
  rintro id _ rfl username _ rfl account _ rfl accountId _ rfl domainId _ rfl kind _ rfl email _ rfl
    firstName _ rfl lastName _ rfl state _ rfl apiKey _ rfl s t h
  exact ⟨rfl, h⟩

theorem Account.respects_ofJson : Respects secret (Account.Agree secret) Account.ofJson := by
  refine Shape.respects_decode _ _ (.seq (.seq (.seq (.seq (.seq (.seq (.map ?_
    (respects_requiredText (by decide))) (respects_requiredText (by decide)))
    (respects_required (by decide) AccountType.respects_ofJson))
    (respects_requiredText (by decide))) (respects_optionalText (by decide)))
    (respects_optionalText (by decide)))
    (respects_withDefault (by decide) .nil (respects_decodeList (User.respects_ofJson hsame))))
  rintro id _ rfl name _ rfl kind _ rfl domainId _ rfl domain _ rfl state _ rfl users users' h
  exact ⟨rfl, h⟩

end Records

end ControlPlane
