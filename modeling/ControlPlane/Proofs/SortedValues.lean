import ControlPlane.Json.Parser

/-!
# Values in order

The members of an object are kept in ascending order of their names, each name once, and so are
those of the objects inside it (`Json.Sorted`). This holds of every value that is read from a text
(`sorted_of_parse`), and of an object that is put together from such values (`sorted_object`).
-/

namespace ControlPlane

namespace Json

/-- In every object within a value the members are in ascending order, each name once. -/
inductive Sorted : Json → Prop
  | null : Sorted .null
  | bool (b : Bool) : Sorted (.bool b)
  | num (n : JsonNumber) : Sorted (.num n)
  | str (s : String) : Sorted (.str s)
  | arr {items : List Json} (h : ∀ item ∈ items, Sorted item) : Sorted (.arr items)
  | obj {members : Dictionary Json} (hmembers : Dictionary.Sorted members)
    (h : ∀ member ∈ members, Sorted member.2) : Sorted (.obj members)

/-- The names of the members of an object in order are distinct. -/
theorem Sorted.nodup_names {members : List (String × Json)} (h : Sorted (.obj members)) :
    (members.map Prod.fst).Nodup := by
  cases h with
  | obj hmembers => exact Dictionary.Sorted.nodup hmembers

theorem Sorted.of_mem {members : List (String × Json)} {name : String} {value : Json}
    (h : Sorted (.obj members)) (hmem : (name, value) ∈ members) : value.Sorted := by
  cases h with
  | obj _ hvalues => exact hvalues _ hmem

theorem sorted_object {members : List (String × Json)} (h : ∀ member ∈ members, Sorted member.2) :
    Sorted (object members) :=
  .obj (Dictionary.sorted_ofList members) fun member hmember =>
    h member (Dictionary.mem_of_mem_ofList hmember)

/-! ## What is read -/

/-- What reads values in order only. -/
def Reader.IsSorted (reader : Reader) : Prop :=
  ∀ {cs rest : List Char} {value : Json}, reader cs = some (value, rest) → value.Sorted

variable {reader : Reader} {cs rest : List Char}

theorem sorted_of_readItems (hreader : reader.IsSorted) {done items : List Json} {fuel : Nat}
    (hdone : ∀ item ∈ done, item.Sorted)
    (h : readItems reader done fuel cs = some (items, rest)) : ∀ item ∈ items, item.Sorted := by
  induction fuel generalizing done cs with
  | zero => exact absurd h (by simp [readItems])
  | succ fuel ih =>
    unfold readItems at h
    split at h
    · obtain ⟨rfl, -⟩ := Prod.mk.inj (Option.some.inj h)
      exact fun item hitem => hdone item (List.mem_reverse.1 hitem)
    · obtain ⟨⟨item, after⟩, hitem, h⟩ := Option.bind_eq_some_iff.1 h
      exact ih (List.forall_mem_cons.2 ⟨hreader hitem, hdone⟩) h
    · exact absurd h (by simp)

theorem sorted_of_readArray (hreader : reader.IsSorted) {value : Json}
    (h : readArray reader cs = some (value, rest)) : value.Sorted := by
  unfold readArray at h
  split at h
  · obtain ⟨rfl, -⟩ := Prod.mk.inj (Option.some.inj h)
    exact .arr (by simp)
  · obtain ⟨⟨first, after⟩, hfirst, h⟩ := Option.bind_eq_some_iff.1 h
    obtain ⟨⟨items, more⟩, hitems, h⟩ := Option.bind_eq_some_iff.1 h
    obtain ⟨rfl, -⟩ := Prod.mk.inj (Option.some.inj h)
    have hdone : ∀ item ∈ [first], item.Sorted := by simpa using hreader hfirst
    exact .arr (sorted_of_readItems hreader hdone hitems)

theorem sorted_of_readMember (hreader : reader.IsSorted) {member : String × Json}
    (h : readMember reader cs = some (member, rest)) : member.2.Sorted := by
  unfold readMember at h
  split at h
  · obtain ⟨⟨name, after⟩, -, h⟩ := Option.bind_eq_some_iff.1 h
    dsimp only at h
    split at h
    · obtain ⟨⟨value, more⟩, hvalue, h⟩ := Option.bind_eq_some_iff.1 h
      obtain ⟨rfl, -⟩ := Prod.mk.inj (Option.some.inj h)
      exact hreader hvalue
    · exact absurd h (by simp)
  · exact absurd h (by simp)

/-- A member that is read goes where it belongs, and takes the place of an older one. -/
theorem sorted_insert {member : String × Json} {members : Dictionary Json}
    (hmember : member.2.Sorted) (h : Sorted (.obj members)) :
    Sorted (.obj (Dictionary.insert member.1 member.2 members)) := by
  cases h with
  | obj hmembers hvalues =>
    refine .obj (Dictionary.sorted_insert hmembers) ?_
    intro other hother
    rcases Dictionary.mem_insert hother with rfl | hother
    · exact hmember
    · exact hvalues other hother

theorem sorted_of_readMembers (hreader : reader.IsSorted) {done members : Dictionary Json}
    {fuel : Nat} (hdone : Sorted (.obj done))
    (h : readMembers reader done fuel cs = some (members, rest)) : Sorted (.obj members) := by
  induction fuel generalizing done cs with
  | zero => exact absurd h (by simp [readMembers])
  | succ fuel ih =>
    unfold readMembers at h
    split at h
    · obtain ⟨rfl, -⟩ := Prod.mk.inj (Option.some.inj h)
      exact hdone
    · obtain ⟨⟨member, after⟩, hmember, h⟩ := Option.bind_eq_some_iff.1 h
      exact ih (sorted_insert (sorted_of_readMember hreader hmember) hdone) h
    · exact absurd h (by simp)

theorem sorted_of_readObject (hreader : reader.IsSorted) {value : Json}
    (h : readObject reader cs = some (value, rest)) : value.Sorted := by
  have hempty : Sorted (.obj []) := .obj List.Pairwise.nil (by simp)
  unfold readObject at h
  split at h
  · obtain ⟨rfl, -⟩ := Prod.mk.inj (Option.some.inj h)
    exact hempty
  · obtain ⟨⟨member, after⟩, hmember, h⟩ := Option.bind_eq_some_iff.1 h
    obtain ⟨⟨members, more⟩, hmembers, h⟩ := Option.bind_eq_some_iff.1 h
    obtain ⟨rfl, -⟩ := Prod.mk.inj (Option.some.inj h)
    exact sorted_of_readMembers hreader
      (sorted_insert (sorted_of_readMember hreader hmember) hempty) hmembers

/-- A value is read in order if what is nested in it is. -/
theorem isSorted_readValue_of {depth : Nat}
    (hinner : ∀ inner, depth = inner + 1 → Reader.IsSorted (readValue inner)) :
    Reader.IsSorted (readValue depth) := by
  intro cs rest value h
  unfold readValue at h
  split at h
  · obtain ⟨rfl, -⟩ := Prod.mk.inj (Option.some.inj h)
    exact .null
  · obtain ⟨rfl, -⟩ := Prod.mk.inj (Option.some.inj h)
    exact .bool true
  · obtain ⟨rfl, -⟩ := Prod.mk.inj (Option.some.inj h)
    exact .bool false
  · obtain ⟨⟨s, after⟩, -, h⟩ := Option.map_eq_some_iff.1 h
    obtain ⟨rfl, -⟩ := Prod.mk.inj h
    exact .str s
  · split at h
    · exact absurd h (by simp)
    · exact sorted_of_readArray (hinner _ rfl) h
  · split at h
    · exact absurd h (by simp)
    · exact sorted_of_readObject (hinner _ rfl) h
  · obtain ⟨⟨n, after⟩, -, h⟩ := Option.map_eq_some_iff.1 h
    obtain ⟨rfl, -⟩ := Prod.mk.inj h
    exact .num n

theorem isSorted_readValue (depth : Nat) : Reader.IsSorted (readValue depth) := by
  induction depth with
  | zero => exact isSorted_readValue_of fun inner h => absurd h (Nat.succ_ne_zero inner).symm
  | succ depth ih => exact isSorted_readValue_of fun inner h => Nat.succ.inj h ▸ ih

theorem sorted_of_parse {text : String} {value : Json} (h : parse text = some value) :
    value.Sorted := by
  unfold parse at h
  split at h
  · rename_i read rest hread
    split at h
    · exact Option.some.inj h ▸ isSorted_readValue depthLimit hread
    · exact absurd h (by simp)
  · exact absurd h (by simp)

end Json

end ControlPlane
