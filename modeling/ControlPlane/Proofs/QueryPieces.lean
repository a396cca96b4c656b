import ControlPlane.Proofs.PercentCode
import Mathlib.Data.List.TakeWhile

/-!
# The pieces of a query

A query is read by cutting it: at every `&` into pieces, and each piece at its first `=`. Cutting
undoes joining as long as no piece holds a separator (`splitAt_intercalate`), and it can be done
before or after the parser has written its escapes (`splitAt_encodeQuery`, `cutAt_encodeQuery`),
since no escape holds a separator.
-/

namespace ControlPlane.Text

variable {separator : Char}

/-! ## Cutting at a separator -/

theorem splitAt_cons_self (cs : List Char) :
    splitAt separator (separator :: cs) = [] :: splitAt separator cs := by
  rw [splitAt, splitBy, if_pos (by simp), ← splitAt]

theorem splitAt_cons_of_ne {c : Char} (h : c ≠ separator) {cs piece : List Char}
    {pieces : List (List Char)} (hcs : splitAt separator cs = piece :: pieces) :
    splitAt separator (c :: cs) = (c :: piece) :: pieces := by
  rw [splitAt, splitBy, if_neg (by simpa using h), ← splitAt, hcs]

theorem exists_splitAt_eq_cons (separator : Char) (cs : List Char) :
    ∃ piece pieces, splitAt separator cs = piece :: pieces :=
  List.exists_cons_of_ne_nil (splitBy_ne_nil _ cs)

theorem splitAt_of_not_mem {cs : List Char} (h : separator ∉ cs) : splitAt separator cs = [cs] := by
  induction cs with
  | nil => rfl
  | cons c cs ih =>
    rw [List.mem_cons, not_or] at h
    exact splitAt_cons_of_ne (Ne.symm h.1) (ih h.2)

theorem splitAt_append_of_not_mem {front cs piece : List Char} {pieces : List (List Char)}
    (h : separator ∉ front) (hcs : splitAt separator cs = piece :: pieces) :
    splitAt separator (front ++ cs) = (front ++ piece) :: pieces := by
  induction front with
  | nil => exact hcs
  | cons c front ih =>
    rw [List.mem_cons, not_or] at h
    exact splitAt_cons_of_ne (Ne.symm h.1) (ih h.2)

theorem splitAt_append_cons (cs ds : List Char) :
    splitAt separator (cs ++ separator :: ds) = splitAt separator cs ++ splitAt separator ds := by
  induction cs with
  | nil => rw [List.nil_append, splitAt_cons_self]; rfl
  | cons c cs ih =>
    by_cases hc : c = separator
    · subst hc
      rw [List.cons_append, splitAt_cons_self, splitAt_cons_self, ih, List.cons_append]
    · obtain ⟨piece, pieces, hpieces⟩ := exists_splitAt_eq_cons separator cs
      rw [List.cons_append, splitAt_cons_of_ne hc hpieces, List.cons_append]
      exact splitAt_cons_of_ne hc (by rw [ih, hpieces, List.cons_append])

/-- Pieces without a separator are found again in what they are joined to. -/
theorem splitAt_intercalate {pieces : List (List Char)} (hne : pieces ≠ [])
    (h : ∀ piece ∈ pieces, separator ∉ piece) :
    splitAt separator ([separator].intercalate pieces) = pieces := by
  induction pieces with
  | nil => exact absurd rfl hne
  | cons piece pieces ih =>
    have hpiece : separator ∉ piece := h piece (by simp)
    cases pieces with
    | nil => rw [List.intercalate_singleton, splitAt_of_not_mem hpiece]
    | cons next more =>
      rw [List.intercalate_cons_cons, List.append_assoc, List.singleton_append,
        splitAt_append_cons, splitAt_of_not_mem hpiece,
        ih (by simp) fun p hp => h p (List.mem_cons_of_mem _ hp), List.singleton_append]

theorem not_mem_of_mem_splitAt {cs piece : List Char} (h : piece ∈ splitAt separator cs) :
    separator ∉ piece := by
  induction cs generalizing piece with
  | nil =>
    rw [splitAt_of_not_mem (by simp), List.mem_singleton] at h
    simp [h]
  | cons c cs ih =>
    by_cases hc : c = separator
    · subst hc
      rw [splitAt_cons_self, List.mem_cons] at h
      rcases h with rfl | h
      · simp
      · exact ih h
    · obtain ⟨first, others, hpieces⟩ := exists_splitAt_eq_cons separator cs
      rw [splitAt_cons_of_ne hc hpieces, List.mem_cons] at h
      rcases h with rfl | h
      · rw [List.mem_cons, not_or]
        exact ⟨Ne.symm hc, ih (by rw [hpieces]; simp)⟩
      · exact ih (by rw [hpieces]; exact List.mem_cons_of_mem _ h)

/-- A piece is part of the text. -/
theorem sublist_of_mem_splitAt {cs piece : List Char} (h : piece ∈ splitAt separator cs) :
    piece.Sublist cs := by
  induction cs generalizing piece with
  | nil =>
    rw [splitAt_of_not_mem (by simp), List.mem_singleton] at h
    exact h ▸ List.Sublist.refl []
  | cons c cs ih =>
    by_cases hc : c = separator
    · subst hc
      rw [splitAt_cons_self, List.mem_cons] at h
      rcases h with rfl | h
      · exact List.nil_sublist _
      · exact (ih h).cons c
    · obtain ⟨first, others, hpieces⟩ := exists_splitAt_eq_cons separator cs
      rw [splitAt_cons_of_ne hc hpieces, List.mem_cons] at h
      rcases h with rfl | h
      · exact (ih (by rw [hpieces]; simp)).cons_cons c
      · exact (ih (by rw [hpieces]; exact List.mem_cons_of_mem _ h)).cons c

theorem intercalate_append_last (init : List (List Char)) (last ds : List Char) :
    [separator].intercalate (init ++ [last]) ++ ds =
      [separator].intercalate (init ++ [last ++ ds]) := by
  induction init with
  | nil => simp
  | cons piece init ih =>
    rw [List.cons_append, List.cons_append, List.intercalate_cons_of_ne_nil (by simp),
      List.intercalate_cons_of_ne_nil (by simp), List.append_assoc, ih]

/-- What follows the last separator goes to the last piece. -/
theorem mem_splitAt_append {cs ds piece : List Char} (hds : separator ∉ ds)
    (h : piece ∈ splitAt separator (cs ++ ds)) :
    piece ∈ splitAt separator cs ∨ ∃ last ∈ splitAt separator cs, piece = last ++ ds := by
  obtain ⟨init, last, hpieces⟩ : ∃ init last, splitAt separator cs = init ++ [last] :=
    ⟨_, _, (List.dropLast_concat_getLast (splitBy_ne_nil _ cs)).symm⟩
  have hlast : last ∈ splitAt separator cs := by rw [hpieces]; simp
  have hjoin : cs ++ ds = [separator].intercalate (init ++ [last ++ ds]) := by
    rw [← intercalate_append_last, ← hpieces, intercalate_splitAt]
  have hsplit : splitAt separator (cs ++ ds) = init ++ [last ++ ds] := by
    rw [hjoin]
    refine splitAt_intercalate (by simp) ?_
    intro p hp
    rcases List.mem_append.1 hp with hp | hp
    · exact not_mem_of_mem_splitAt (by rw [hpieces]; exact List.mem_append_left _ hp)
    · rw [List.mem_singleton.1 hp, List.mem_append, not_or]
      exact ⟨not_mem_of_mem_splitAt hlast, hds⟩
  rw [hsplit, List.mem_append, List.mem_singleton] at h
  rcases h with h | h
  · exact Or.inl (by rw [hpieces]; exact List.mem_append_left _ h)
  · exact Or.inr ⟨last, hlast, h⟩

end ControlPlane.Text

namespace ControlPlane.Url

/-! ## Cutting at the first separator -/

theorem cutAt_of_all_not {p : Char → Bool} {cs : List Char} (h : ∀ c ∈ cs, p c = false) :
    cutAt p cs = (cs, none) := by
  have hdrop : cs.dropWhile (fun c => !p c) = [] :=
    List.dropWhile_eq_nil_iff.2 fun c hc => by simp [h c hc]
  rw [cutAt, hdrop]

theorem cutAt_append_cons {p : Char → Bool} {cs : List Char} (h : ∀ c ∈ cs, p c = false)
    {d : Char} (hd : p d = true) (ds : List Char) : cutAt p (cs ++ d :: ds) = (cs, some ds) := by
  have hall : ∀ c ∈ cs, (!p c) = true := fun c hc => by simp [h c hc]
  have hdrop : (cs ++ d :: ds).dropWhile (fun c => !p c) = d :: ds := by
    rw [List.dropWhile_append_of_pos hall, List.dropWhile_cons_of_neg (by simp [hd])]
  have htake : (cs ++ d :: ds).takeWhile (fun c => !p c) = cs := by
    rw [List.takeWhile_append_of_pos hall, List.takeWhile_cons_of_neg (by simp [hd]),
      List.append_nil]
  rw [cutAt, hdrop]
  simp only [htake]

theorem beq_eq_false_of_not_mem {separator : Char} {cs : List Char} (h : separator ∉ cs) :
    ∀ c ∈ cs, (c == separator) = false := by
  intro c hc
  rw [beq_eq_false_iff_ne]
  rintro rfl
  exact h hc

theorem cutAt_of_not_mem {separator : Char} {cs : List Char} (h : separator ∉ cs) :
    cutAt (· == separator) cs = (cs, none) :=
  cutAt_of_all_not (beq_eq_false_of_not_mem h)

/-- A text is cut where a character stands for the first time. -/
theorem cutAt_append_self {separator : Char} {cs : List Char} (h : separator ∉ cs)
    (ds : List Char) : cutAt (· == separator) (cs ++ separator :: ds) = (cs, some ds) :=
  cutAt_append_cons (beq_eq_false_of_not_mem h) (beq_self_eq_true separator) ds

/-- A text is uncut, or it is cut at a separator with none before it. -/
theorem cutAt_cases (p : Char → Bool) (cs : List Char) :
    (cutAt p cs = (cs, none) ∧ ∀ c ∈ cs, p c = false) ∨
      ∃ front d rest, cs = front ++ d :: rest ∧ cutAt p cs = (front, some rest) ∧ p d = true ∧
        ∀ c ∈ front, p c = false := by
  induction cs with
  | nil => exact Or.inl ⟨rfl, by simp⟩
  | cons c cs ih =>
    cases hc : p c with
    | true =>
      refine Or.inr ⟨[], c, cs, rfl, ?_, hc, by simp⟩
      exact @cutAt_append_cons p [] (by simp) c hc cs
    | false =>
      rcases ih with ⟨-, hnone⟩ | ⟨front, d, rest, rfl, -, hd, hfront⟩
      · have hall : ∀ e ∈ c :: cs, p e = false := by
          intro e he
          rcases List.mem_cons.1 he with rfl | he
          · exact hc
          · exact hnone e he
        exact Or.inl ⟨cutAt_of_all_not hall, hall⟩
      · have hall : ∀ e ∈ c :: front, p e = false := by
          intro e he
          rcases List.mem_cons.1 he with rfl | he
          · exact hc
          · exact hfront e he
        exact Or.inr ⟨c :: front, d, rest, rfl, cutAt_append_cons hall hd rest, hd, hall⟩

/-- What is cut off in front is part of the text and holds no separator. -/
theorem cutAt_fst (p : Char → Bool) (cs : List Char) :
    (cutAt p cs).1.Sublist cs ∧ ∀ c ∈ (cutAt p cs).1, p c = false := by
  rcases cutAt_cases p cs with ⟨hcut, hall⟩ | ⟨front, d, rest, rfl, hcut, -, hfront⟩
  · rw [hcut]
    exact ⟨List.Sublist.refl cs, hall⟩
  · rw [hcut]
    exact ⟨List.sublist_append_left front _, hfront⟩

/-! ## Cutting and escaping -/

/-- Whether a character cuts a query: into pieces, or a piece into name and value. -/
def isQueryMark (c : Char) : Bool :=
  c == '&' || c == '='

theorem isKeptInQuery_of_isQueryMark {c : Char} (h : isQueryMark c = true) :
    isKeptInQuery c = true := by
  simp only [isQueryMark, Bool.or_eq_true, beq_iff_eq] at h
  rcases h with rfl | rfl
  · decide
  · decide

theorem not_mem_escapeChar_of_isQueryMark {c d : Char} (hc : isQueryMark c = true) :
    c ∉ escapeChar d := by
  intro hmem
  have hnot : isUnreserved c = false ∧ c ≠ '%' := by
    simp only [isQueryMark, Bool.or_eq_true, beq_iff_eq] at hc
    rcases hc with rfl | rfl
    · decide
    · decide
  rcases mem_escapeChar hmem with h | h
  · rw [hnot.1] at h
    exact Bool.false_ne_true h
  · exact hnot.2 h

theorem mem_encodeQuery_iff_of_isQueryMark {c : Char} (hc : isQueryMark c = true)
    (cs : List Char) : c ∈ encodeQuery cs ↔ c ∈ cs := by
  induction cs with
  | nil => rfl
  | cons d cs ih =>
    cases hd : isKeptInQuery d with
    | true => rw [encodeQuery_cons_of_kept hd, List.mem_cons, List.mem_cons, ih]
    | false =>
      have hne : c ≠ d := by
        rintro rfl
        rw [isKeptInQuery_of_isQueryMark hc] at hd
        exact absurd hd (by decide)
      rw [encodeQuery_cons_of_not_kept hd, List.mem_append, List.mem_cons, ih]
      simp [not_mem_escapeChar_of_isQueryMark hc, hne]

theorem encodeQuery_append (cs ds : List Char) :
    encodeQuery (cs ++ ds) = encodeQuery cs ++ encodeQuery ds :=
  encodeWith_append _ cs ds

/-- The pieces of a written query are its pieces, written. -/
theorem splitAt_encodeQuery (cs : List Char) :
    Text.splitAt '&' (encodeQuery cs) = (Text.splitAt '&' cs).map encodeQuery := by
  induction cs with
  | nil => rfl
  | cons c cs ih =>
    obtain ⟨piece, pieces, hpieces⟩ := Text.exists_splitAt_eq_cons '&' cs
    have hwritten : Text.splitAt '&' (encodeQuery cs) =
        encodeQuery piece :: pieces.map encodeQuery := by rw [ih, hpieces, List.map_cons]
    by_cases hc : c = '&'
    · subst hc
      rw [encodeQuery_cons_of_kept (by decide), Text.splitAt_cons_self, Text.splitAt_cons_self, ih,
        List.map_cons]
      rfl
    · rw [Text.splitAt_cons_of_ne hc hpieces, List.map_cons]
      cases hkept : isKeptInQuery c with
      | true =>
        rw [encodeQuery_cons_of_kept hkept, encodeQuery_cons_of_kept hkept]
        exact Text.splitAt_cons_of_ne hc hwritten
      | false =>
        rw [encodeQuery_cons_of_not_kept hkept, encodeQuery_cons_of_not_kept hkept]
        have hescape := not_mem_escapeChar_of_isQueryMark (c := '&') (d := c) rfl
        exact Text.splitAt_append_of_not_mem hescape hwritten

/-- A written piece is cut where the piece is. -/
theorem cutAt_encodeQuery (cs : List Char) :
    cutAt (· == '=') (encodeQuery cs) =
      (encodeQuery (cutAt (· == '=') cs).1, (cutAt (· == '=') cs).2.map encodeQuery) := by
  have hwritten : ∀ {ds : List Char}, (∀ c ∈ ds, (c == '=') = false) →
      ∀ c ∈ encodeQuery ds, (c == '=') = false := by
    intro ds hds c hc
    rw [beq_eq_false_iff_ne]
    rintro rfl
    have hmem := (mem_encodeQuery_iff_of_isQueryMark (c := '=') rfl ds).1 hc
    exact absurd (hds _ hmem) (by decide)
  rcases cutAt_cases (· == '=') cs with ⟨hcut, hall⟩ | ⟨front, d, rest, rfl, hcut, hd, hfront⟩
  · rw [hcut, cutAt_of_all_not (hwritten hall)]
    rfl
  · rw [beq_iff_eq] at hd
    subst hd
    rw [hcut, encodeQuery_append, encodeQuery_cons_of_kept (by decide),
      cutAt_append_cons (hwritten hfront) (by decide)]
    rfl

end ControlPlane.Url
