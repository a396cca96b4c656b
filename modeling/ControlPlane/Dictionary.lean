/-!
# Dictionaries

Text-keyed maps as association lists in ascending order of their keys, each key once. Members
of JSON objects, parameters of commands and keys of configuration tables are all kept this way,
so the order in which they are visited is the order of their names.

Main statements: looking up after an insertion finds the new value under its key and the old
ones elsewhere (`find?_insert`), and insertion keeps the order (`sorted_insert`), so every list of
entries makes a dictionary in order (`sorted_ofList`), whose keys are distinct (`Sorted.nodup`).
-/
namespace ControlPlane

/-- A map from text to `α`, ascending in its keys. -/
abbrev Dictionary (α : Type) := List (String × α)

namespace Dictionary

variable {α β : Type}

/-- The value under a key. -/
def find? (key : String) : Dictionary α → Option α
  | [] => none
  | (k, v) :: rest => if k = key then some v else find? key rest

/-- Whether a key is present. -/
def has (key : String) (entries : Dictionary α) : Bool :=
  (find? key entries).isSome

/-- Puts a value under a key, replacing an older one. -/
def insert (key : String) (value : α) : Dictionary α → Dictionary α
  | [] => [(key, value)]
  | (k, v) :: rest =>
    if key < k then (key, value) :: (k, v) :: rest
    else if key = k then (key, value) :: rest
    else (k, v) :: insert key value rest

/-- The dictionary of a list of entries; of entries with one key the last stays. -/
def ofList (entries : List (String × α)) : Dictionary α :=
  entries.foldl (fun acc entry => insert entry.1 entry.2 acc) []

/-- Ascending keys, each once. -/
def Sorted (entries : Dictionary α) : Prop :=
  entries.Pairwise fun a b => a.1 < b.1

/-! ## Looking up -/

@[simp] theorem find?_nil (key : String) : find? key ([] : Dictionary α) = none := rfl

theorem find?_insert (key key' : String) (value : α) (entries : Dictionary α) :
    find? key' (insert key value entries) =
      if key' = key then some value else find? key' entries := by
  by_cases h : key' = key
  · subst h
    simp only [if_true]
    induction entries with
    | nil => simp [insert, find?]
    | cons entry rest ih =>
      unfold insert
      split
      · simp [find?]
      · split
        · simp [find?]
        · rename_i hk
          simp [find?, Ne.symm hk, ih]
  · simp only [h, if_false]
    induction entries with
    | nil => simp [insert, find?, Ne.symm h]
    | cons entry rest ih =>
      unfold insert
      split
      · simp [find?, Ne.symm h]
      · split
        · rename_i hk
          simp [find?, ← hk, Ne.symm h]
        · simp [find?, ih]

theorem mem_insert {key : String} {value : α} {entries : Dictionary α} {entry : String × α}
    (h : entry ∈ insert key value entries) : entry = (key, value) ∨ entry ∈ entries := by
  induction entries with
  | nil => exact .inl (by simpa [insert] using h)
  | cons head rest ih =>
    obtain ⟨k, v⟩ := head
    unfold insert at h
    split at h
    · rcases List.mem_cons.1 h with rfl | h
      · exact .inl rfl
      · exact .inr h
    · split at h
      · rcases List.mem_cons.1 h with rfl | h
        · exact .inl rfl
        · exact .inr (List.mem_cons_of_mem _ h)
      · rcases List.mem_cons.1 h with rfl | h
        · exact .inr List.mem_cons_self
        · rcases ih h with rfl | h
          · exact .inl rfl
          · exact .inr (List.mem_cons_of_mem _ h)

/-- What is in the dictionary of a list of entries is one of them. -/
theorem mem_of_mem_ofList {entries : List (String × α)} {entry : String × α}
    (h : entry ∈ ofList entries) : entry ∈ entries := by
  have hfold : ∀ acc : Dictionary α,
      entry ∈ entries.foldl (fun acc entry => insert entry.1 entry.2 acc) acc →
        entry ∈ acc ∨ entry ∈ entries := by
    clear h
    induction entries with
    | nil => exact fun _ h => .inl h
    | cons head rest ih =>
      intro acc h
      rcases ih _ h with h | h
      · rcases mem_insert h with rfl | h
        · exact .inr List.mem_cons_self
        · exact .inl h
      · exact .inr (List.mem_cons_of_mem _ h)
  exact (hfold [] h).resolve_left List.not_mem_nil

/-! ## Order -/

theorem sorted_insert {key : String} {value : α} {entries : Dictionary α}
    (h : Sorted entries) : Sorted (insert key value entries) := by
  induction entries with
  | nil => simp [insert, Sorted]
  | cons head rest ih =>
    obtain ⟨k, v⟩ := head
    have hrest : Sorted rest := (List.pairwise_cons.1 h).2
    have hhead := (List.pairwise_cons.1 h).1
    unfold insert
    split
    · rename_i hlt
      refine List.pairwise_cons.2 ⟨?_, h⟩
      intro entry hmem
      rcases List.mem_cons.1 hmem with rfl | hmem
      · exact hlt
      · exact String.lt_trans hlt (hhead entry hmem)
    · split
      · rename_i hk
        subst hk
        exact List.pairwise_cons.2 ⟨hhead, hrest⟩
      · rename_i hlt hne
        refine List.pairwise_cons.2 ⟨?_, ih hrest⟩
        intro entry hmem
        rcases mem_insert hmem with rfl | hmem
        · exact Decidable.byContradiction fun hnot =>
            hne (String.le_antisymm (String.not_lt.1 hnot) (String.not_lt.1 hlt))
        · exact hhead entry hmem

theorem sorted_ofList (entries : List (String × α)) : Sorted (ofList entries) := by
  have hfold : ∀ acc : Dictionary α, Sorted acc →
      Sorted (entries.foldl (fun acc entry => insert entry.1 entry.2 acc) acc) := by
    induction entries with
    | nil => exact fun _ h => h
    | cons entry rest ih => exact fun acc h => ih _ (sorted_insert h)
  exact hfold [] List.Pairwise.nil

/-- Ascending keys are distinct. -/
theorem Sorted.nodup {entries : Dictionary α} (h : Sorted entries) :
    (entries.map Prod.fst).Nodup := by
  refine List.pairwise_map.2 (h.imp ?_)
  intro a b hab heq
  exact String.lt_irrefl _ (heq ▸ hab)

end Dictionary

end ControlPlane
