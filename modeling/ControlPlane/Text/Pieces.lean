/-!
# Pieces of a text

Text between separators: the labels of a host name, the segments of a path, the lines of a page.
There is always at least one piece, and an empty one between two neighbouring separators.

Main statements: pieces put together again give the text (`intercalate_splitAt`), and every
character of a piece is one of the text (`mem_of_mem_splitBy`).
-/
namespace ControlPlane.Text

/-- The pieces between the characters that `separator` holds of. -/
def splitBy (separator : Char → Bool) : List Char → List (List Char)
  | [] => [[]]
  | c :: rest =>
    if separator c then [] :: splitBy separator rest
    else match splitBy separator rest with
      | [] => [[c]]
      | piece :: pieces => (c :: piece) :: pieces

/-- The pieces between the occurrences of a character. -/
def splitAt (separator : Char) (cs : List Char) : List (List Char) :=
  splitBy (· == separator) cs

theorem splitBy_ne_nil (p : Char → Bool) (cs : List Char) : splitBy p cs ≠ [] := by
  cases cs with
  | nil => simp [splitBy]
  | cons c rest =>
    unfold splitBy
    split
    · simp
    · split <;> simp

theorem mem_of_mem_splitBy {p : Char → Bool} {cs piece : List Char} {c : Char}
    (hpiece : piece ∈ splitBy p cs) (hc : c ∈ piece) : c ∈ cs := by
  induction cs generalizing piece with
  | nil => simp_all [splitBy]
  | cons d rest ih =>
    unfold splitBy at hpiece
    split at hpiece
    · rcases List.mem_cons.1 hpiece with rfl | h
      · simp at hc
      · exact List.mem_cons_of_mem d (ih h hc)
    · split at hpiece
      · simp_all
      · rename_i first others heq
        rcases List.mem_cons.1 hpiece with rfl | h
        · rcases List.mem_cons.1 hc with rfl | h
          · simp
          · exact List.mem_cons_of_mem d (ih (heq ▸ List.mem_cons_self) h)
        · exact List.mem_cons_of_mem d (ih (heq ▸ List.mem_cons_of_mem first h) hc)

/-- A character of pieces put together is a separator or one of a piece. -/
theorem mem_intercalate {separator : Char} {pieces : List (List Char)} {c : Char}
    (h : c ∈ [separator].intercalate pieces) : c = separator ∨ ∃ piece ∈ pieces, c ∈ piece := by
  induction pieces with
  | nil => simp [List.intercalate] at h
  | cons piece others ih =>
    cases others with
    | nil => exact .inr ⟨piece, by simp, by simpa [List.intercalate] using h⟩
    | cons next more =>
      have hsplit : [separator].intercalate (piece :: next :: more) =
          piece ++ separator :: [separator].intercalate (next :: more) := by
        simp [List.intercalate]
      rw [hsplit] at h
      rcases List.mem_append.1 h with h | h
      · exact .inr ⟨piece, by simp, h⟩
      · rcases List.mem_cons.1 h with h | h
        · exact .inl h
        · rcases ih h with h | ⟨p, hp, hc⟩
          · exact .inl h
          · exact .inr ⟨p, by simp [hp], hc⟩

/-- A separator in front of pieces adds an empty piece. -/
theorem intercalate_nil_cons (separator : Char) {pieces : List (List Char)} (h : pieces ≠ []) :
    [separator].intercalate ([] :: pieces) = separator :: [separator].intercalate pieces := by
  cases pieces with
  | nil => exact absurd rfl h
  | cons piece others => simp [List.intercalate]

/-- A character in front of pieces goes to the first. -/
theorem intercalate_cons_cons (separator c : Char) (piece : List Char)
    (pieces : List (List Char)) : [separator].intercalate ((c :: piece) :: pieces) =
      c :: [separator].intercalate (piece :: pieces) := by
  cases pieces with
  | nil => simp [List.intercalate]
  | cons next others => simp [List.intercalate]

theorem intercalate_splitAt (separator : Char) (cs : List Char) :
    [separator].intercalate (splitAt separator cs) = cs := by
  unfold splitAt
  induction cs with
  | nil => simp [splitBy, List.intercalate]
  | cons c rest ih =>
    unfold splitBy
    split
    · rename_i hc
      rw [intercalate_nil_cons separator (splitBy_ne_nil _ rest), ih]
      rw [beq_iff_eq.1 hc]
    · split
      · rename_i heq
        exact absurd heq (splitBy_ne_nil _ rest)
      · rename_i piece pieces heq
        rw [intercalate_cons_cons, ← heq, ih]

end ControlPlane.Text
