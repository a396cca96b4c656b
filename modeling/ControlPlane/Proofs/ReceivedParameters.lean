import ControlPlane.Proofs.ActionRuns
import ControlPlane.Proofs.RequestUrls
import Mathlib.Tactic.Set

/-!
# What a server receives

A connection writes its parameters as `name=value` with the value percent-encoded and the name as
it is, joined by `&`. A server cuts the query again and reads both sides of every piece
(`Url.received`).

Values always come through. A name comes through when it holds nothing that cuts the query, ends
it or is dropped from it, and when reading finds no escape in it (`Survives`): if all names do, the
server receives exactly the parameters that were written (`received_sentQuery_written`). In any
case the name of a parameter that is received was read off a part of a name that was written, and
off the whole of it if nothing in that name breaks it (`exists_of_mem_received`).
-/

namespace ControlPlane

namespace Url

/-- The parameters that a server reads off a query: the pieces between `&`, each split at its first
`=`, both sides decoded. -/
def received (query : List Char) : List (String × String) :=
  (Text.splitAt '&' query).map fun piece =>
    (String.ofList (readPair piece).1, String.ofList (readPair piece).2)

/-- Whether a character breaks a name on its way: it cuts the query, ends it, or is dropped. -/
def isBreaker (c : Char) : Bool :=
  isQueryMark c || c == '#' || isDropped c

/-- Whether a server receives a name as it was given. -/
structure Survives (name : List Char) : Prop where
  whole : ∀ c ∈ name, isBreaker c = false
  readBack : decodeComponent (encodeQuery name) = name

instance (name : List Char) : Decidable (Survives name) :=
  decidable_of_iff
    ((name.all fun c => !isBreaker c) = true ∧ decodeComponent (encodeQuery name) = name)
    ⟨fun h => ⟨by simpa using h.1, h.2⟩, fun h => ⟨by simpa using h.whole, h.readBack⟩⟩

theorem isBreaker_eq_false_iff {c : Char} :
    isBreaker c = false ↔ c ≠ '&' ∧ c ≠ '=' ∧ c ≠ '#' ∧ isDropped c = false := by
  simp only [isBreaker, isQueryMark, Bool.or_eq_false_iff, beq_eq_false_iff_ne, and_assoc]

/-- A name without breakers and without `%` survives. -/
theorem survives_of_no_percent {name : List Char} (hwhole : ∀ c ∈ name, isBreaker c = false)
    (hpercent : '%' ∉ name) : Survives name := by
  refine ⟨hwhole, decodeComponent_of_unescape ?_⟩
  rw [unescape_encodeQuery, unescape_of_no_percent hpercent]

theorem isBreaker_of_isUnreserved {c : Char} (h : isUnreserved c = true) : isBreaker c = false :=
  forall_ascii (P := fun c => isUnreserved c = true → isBreaker c = false) (by decide)
    (isAscii_of_isUnreserved h) h

theorem isEdge_of_isUnreserved {c : Char} (h : isUnreserved c = true) : isEdge c = false :=
  forall_ascii (P := fun c => isUnreserved c = true → isEdge c = false) (by decide)
    (isAscii_of_isUnreserved h) h

theorem isBreaker_of_mem_encodeComponent {cs : List Char} {c : Char}
    (h : c ∈ encodeComponent cs) : isBreaker c = false := by
  rcases mem_encodeComponent h with hc | rfl
  · exact isBreaker_of_isUnreserved hc
  · decide

theorem isEdge_of_mem_encodeComponent {cs : List Char} {c : Char}
    (h : c ∈ encodeComponent cs) : isEdge c = false := by
  rcases mem_encodeComponent h with hc | rfl
  · exact isEdge_of_isUnreserved hc
  · decide

/-- Writing a name in a query breaks nothing that was whole. -/
theorem isBreaker_of_mem_encodeQuery {cs : List Char} (hcs : ∀ c ∈ cs, isBreaker c = false)
    {c : Char} (h : c ∈ encodeQuery cs) : isBreaker c = false := by
  rcases mem_encodeQuery h with ⟨hmem, -⟩ | hc | rfl
  · exact hcs c hmem
  · exact isBreaker_of_isUnreserved hc
  · decide

end Url

namespace Signing

open Url

/-! ## Written parameters -/

/-- One parameter as characters. -/
def pairChars (param : String × String) : List Char :=
  param.1.toList ++ '=' :: encodeComponent param.2.toList

/-- Parameters as the characters of a query, in their order. -/
def written (params : Parameters) : List Char :=
  ['&'].intercalate (params.map pairChars)

theorem toList_writePair (param : String × String) :
    (writePair param).toList = pairChars param := by
  simp [writePair, pairChars, encodeString]

theorem toList_canonicalQuery (params : Parameters) :
    (canonicalQuery params).toList = written (ordered params) := by
  rw [canonicalQuery, String.toList_intercalate, List.map_map, written]
  congr 1
  exact List.map_congr_left fun param _ => toList_writePair param

theorem written_singleton (param : String × String) : written [param] = pairChars param := by
  simp [written]

theorem written_cons {params : Parameters} (hne : params ≠ []) (param : String × String) :
    written (param :: params) = pairChars param ++ '&' :: written params := by
  rw [written, List.map_cons, List.intercalate_cons_of_ne_nil (by simpa using hne), written]
  simp

theorem written_concat {params : Parameters} (hne : params ≠ []) (param : String × String) :
    written (params ++ [param]) = written params ++ '&' :: pairChars param := by
  induction params with
  | nil => exact absurd rfl hne
  | cons first params ih =>
    cases params with
    | nil => rw [List.cons_append, List.nil_append, written_cons (by simp), written_singleton,
        written_singleton]
    | cons next more =>
      have hfirst : written (first :: next :: more) =
          pairChars first ++ '&' :: written (next :: more) := written_cons (by simp) first
      rw [List.cons_append, written_cons (by simp), ih (by simp), hfirst]
      simp

/-- A query with its signature is written as if the signature were its last parameter. -/
theorem toList_signedQuery {params : Parameters} (hne : params ≠ []) (secret : String) :
    (signedQuery params secret).toList =
      written (ordered params ++ [("signature", sign (canonicalQuery params) secret)]) := by
  have hordered : ordered params ≠ [] := by
    intro hnil
    have hlength := (ordered_perm params).length_eq
    rw [hnil, List.length_nil] at hlength
    exact hne (List.eq_nil_of_length_eq_zero hlength.symm)
  rw [written_concat hordered, ← toList_canonicalQuery]
  simp [signedQuery, pairChars, encodeString]

theorem trimEnd_written {params : Parameters} (hne : params ≠ []) :
    trimEnd (written params) = written params := by
  obtain ⟨init, last, rfl⟩ : ∃ init last, params = init ++ [last] :=
    ⟨_, _, (List.dropLast_concat_getLast hne).symm⟩
  have hlast : trimEnd (pairChars last) = pairChars last := by
    rw [pairChars, trimEnd_append_cons (by decide),
      trimEnd_of_not_isEdge fun c hc => isEdge_of_mem_encodeComponent hc]
  cases init with
  | nil => rw [List.nil_append, written_singleton, hlast]
  | cons first more =>
    rw [written_concat (by simp), trimEnd_append_cons (by decide), hlast]

/-! ## Names that survive -/

theorem isBreaker_of_mem_pairChars {param : String × String}
    (hwhole : ∀ c ∈ param.1.toList, isBreaker c = false) {c : Char} (h : c ∈ pairChars param) :
    isBreaker c = false ∨ c = '=' := by
  rw [pairChars, List.mem_append, List.mem_cons] at h
  rcases h with h | h | h
  · exact Or.inl (hwhole c h)
  · exact Or.inr h
  · exact Or.inl (isBreaker_of_mem_encodeComponent h)

theorem readPair_encodeQuery_pairChars {param : String × String}
    (h : Survives param.1.toList) :
    readPair (encodeQuery (pairChars param)) = (param.1.toList, param.2.toList) := by
  have hname : ∀ c ∈ param.1.toList, (c == '=') = false := fun c hc =>
    beq_eq_false_iff_ne.2 (isBreaker_eq_false_iff.1 (h.whole c hc)).2.1
  rw [readPair, cutAt_encodeQuery, pairChars, cutAt_append_cons hname rfl]
  simp only [Option.map_some, Option.getD_some, h.readBack, encodeQuery_encodeComponent,
    decodeComponent_encodeComponent]

/-- A server receives parameters as they were written if all their names survive. -/
theorem received_sentQuery_written {params : Parameters} (hne : params ≠ [])
    (h : ∀ param ∈ params, Survives param.1.toList) :
    received (sentQuery (written params)) = params := by
  have hchars : ∀ c ∈ written params, isBreaker c = false ∨ c = '=' ∨ c = '&' := by
    intro c hc
    rcases Text.mem_intercalate hc with rfl | ⟨piece, hpiece, hmem⟩
    · exact Or.inr (Or.inr rfl)
    · obtain ⟨param, hparam, rfl⟩ := List.mem_map.1 hpiece
      rcases isBreaker_of_mem_pairChars (h param hparam).whole hmem with hc | hc
      · exact Or.inl hc
      · exact Or.inr (Or.inl hc)
  have hkept : keptChars (written params) = written params := by
    refine keptChars_of_not_isDropped ?_
    intro c hc
    rcases hchars c hc with hbreaker | rfl | rfl
    · exact (isBreaker_eq_false_iff.1 hbreaker).2.2.2
    · decide
    · decide
  have hcut : cutAt (· == '#') (written params) = (written params, none) := by
    refine cutAt_of_all_not ?_
    intro c hc
    rw [beq_eq_false_iff_ne]
    rcases hchars c hc with hbreaker | rfl | rfl
    · exact (isBreaker_eq_false_iff.1 hbreaker).2.2.1
    · decide
    · decide
  have hpieces : Text.splitAt '&' (written params) = params.map pairChars := by
    refine Text.splitAt_intercalate (by simpa using hne) ?_
    intro piece hpiece hmem
    obtain ⟨param, hparam, rfl⟩ := List.mem_map.1 hpiece
    rcases isBreaker_of_mem_pairChars (h param hparam).whole hmem with hc | hc
    · exact (isBreaker_eq_false_iff.1 hc).1 rfl
    · exact absurd hc (by decide)
  rw [received, sentQuery, trimEnd_written hne, hkept, hcut, splitAt_encodeQuery, hpieces,
    List.map_map, List.map_map]
  refine (List.map_congr_left ?_).trans (List.map_id params)
  intro param hparam
  simp only [Function.comp_apply, readPair_encodeQuery_pairChars (h param hparam),
    String.ofList_toList, id]

/-! ## Names that do not survive -/

/-- A piece that is left of written parameters is left of one of them. -/
theorem exists_of_mem_splitAt_written {params : Parameters} (hne : params ≠ [])
    {piece : List Char}
    (h : piece ∈ Text.splitAt '&' (cutAt (· == '#') (keptChars (written params))).1) :
    ∃ param ∈ params,
      piece ∈ Text.splitAt '&' (cutAt (· == '#') (keptChars (pairChars param))).1 := by
  induction params with
  | nil => exact absurd rfl hne
  | cons param params ih =>
    by_cases hparams : params = []
    · subst hparams
      rw [written_singleton] at h
      exact ⟨param, by simp, h⟩
    · rw [written_cons hparams, keptChars_append, keptChars_cons (by decide)] at h
      rcases cutAt_cases (· == '#') (keptChars (pairChars param)) with
        ⟨hcut, hnone⟩ | ⟨front, d, rest, hfront, hcut, hd, hnone⟩
      · rw [cutAt_append_left hnone, cutAt_cons_of_not (by decide), Text.splitAt_append_cons,
          List.mem_append] at h
        rcases h with h | h
        · exact ⟨param, by simp, by rw [hcut]; exact h⟩
        · obtain ⟨other, hother, hpiece⟩ := ih hparams h
          exact ⟨other, List.mem_cons_of_mem _ hother, hpiece⟩
      · rw [hfront, List.append_assoc, List.cons_append, cutAt_append_cons hnone hd] at h
        exact ⟨param, by simp, by rw [hcut]; exact h⟩

theorem keptChars_pairChars (param : String × String) :
    keptChars (pairChars param) =
      keptChars param.1.toList ++ '=' :: encodeComponent param.2.toList := by
  have hvalue : keptChars (encodeComponent param.2.toList) = encodeComponent param.2.toList :=
    keptChars_of_not_isDropped fun c hc =>
      (isBreaker_eq_false_iff.1 (isBreaker_of_mem_encodeComponent hc)).2.2.2
  rw [pairChars, keptChars_append, keptChars_cons (by decide), hvalue]

/-- What is left of a written parameter is its name up to a `#`, and all of it if there is none. -/
theorem cutAt_keptChars_pairChars (param : String × String) :
    (cutAt (· == '#') (keptChars (pairChars param))).1 =
        (cutAt (· == '#') (keptChars param.1.toList)).1 ∧ '#' ∈ param.1.toList ∨
      (cutAt (· == '#') (keptChars (pairChars param))).1 =
        (cutAt (· == '#') (keptChars param.1.toList)).1 ++
          '=' :: encodeComponent param.2.toList := by
  rw [keptChars_pairChars]
  rcases cutAt_cases (· == '#') (keptChars param.1.toList) with
    ⟨hcut, hnone⟩ | ⟨front, d, rest, hfront, hcut, hd, hnone⟩
  · have hvalue : ∀ c ∈ '=' :: encodeComponent param.2.toList, (c == '#') = false := by
      intro c hc
      rcases List.mem_cons.1 hc with rfl | hc
      · decide
      · exact beq_eq_false_iff_ne.2
          (isBreaker_eq_false_iff.1 (isBreaker_of_mem_encodeComponent hc)).2.2.1
    rw [cutAt_append_left hnone, cutAt_of_all_not hvalue, hcut]
    exact Or.inr rfl
  · have hmem : d ∈ keptChars param.1.toList := by
      rw [hfront]
      simp
    rw [beq_iff_eq.1 hd] at hmem
    rw [hcut, hfront, List.append_assoc, List.cons_append, cutAt_append_cons hnone hd]
    exact Or.inl ⟨rfl, mem_of_mem_keptChars hmem⟩

/-- The name in front of a piece of a name and a value is part of that name. -/
theorem name_sublist_of_mem_splitAt {name value piece : List Char} (hvalue : '&' ∉ value)
    (h : piece ∈ Text.splitAt '&' (name ++ '=' :: value)) :
    (cutAt (· == '=') piece).1.Sublist name := by
  have hmarked : '&' ∉ '=' :: value := by
    rw [List.mem_cons, not_or]
    exact ⟨by decide, hvalue⟩
  rcases Text.mem_splitAt_append hmarked h with hmem | ⟨last, hlast, rfl⟩
  · exact (cutAt_fst (· == '=') piece).1.trans (Text.sublist_of_mem_splitAt hmem)
  · refine List.Sublist.trans ?_ (Text.sublist_of_mem_splitAt hlast)
    rcases cutAt_cases (· == '=') last with ⟨-, hno⟩ | ⟨front, d, rest, rfl, -, hd, hno⟩
    · have hcut : (cutAt (· == '=') (last ++ '=' :: value)).1 = last := by
        rw [cutAt_append_cons hno rfl]
      exact hcut.symm ▸ List.Sublist.refl last
    · rw [List.append_assoc, List.cons_append, cutAt_append_cons hno hd]
      exact List.sublist_append_left front _

/-- The name in front of a piece is an unbroken part of the parameter's name, and all of it if
nothing breaks that name. -/
theorem name_of_mem_splitAt_pairChars {param : String × String} {piece : List Char}
    (h : piece ∈ Text.splitAt '&' (cutAt (· == '#') (keptChars (pairChars param))).1) :
    (cutAt (· == '=') piece).1.Sublist param.1.toList ∧
      (∀ c ∈ (cutAt (· == '=') piece).1, isBreaker c = false) ∧
      ((∀ c ∈ param.1.toList, isBreaker c = false) →
        (cutAt (· == '=') piece).1 = param.1.toList) := by
  have hvalue : '&' ∉ encodeComponent param.2.toList := fun hc =>
    (isBreaker_eq_false_iff.1 (isBreaker_of_mem_encodeComponent hc)).1 rfl
  obtain ⟨hpieceSub, hpieceEq⟩ := cutAt_fst (· == '=') piece
  obtain ⟨hleftSub, hleftHash⟩ := cutAt_fst (· == '#') (keptChars param.1.toList)
  have hsub : (cutAt (· == '=') piece).1.Sublist
      (cutAt (· == '#') (keptChars param.1.toList)).1 := by
    rcases cutAt_keptChars_pairChars param with ⟨hleft, -⟩ | hleft
    · exact hpieceSub.trans (Text.sublist_of_mem_splitAt (hleft ▸ h))
    · exact name_sublist_of_mem_splitAt hvalue (hleft ▸ h)
  refine ⟨(hsub.trans hleftSub).trans List.filter_sublist, ?_, ?_⟩
  · intro c hc
    have hdropped : isDropped c = false := by
      simpa using (List.mem_filter.1 (hleftSub.subset (hsub.subset hc))).2
    refine isBreaker_eq_false_iff.2 ⟨?_, beq_eq_false_iff_ne.1 (hpieceEq c hc),
      beq_eq_false_iff_ne.1 (hleftHash c (hsub.subset hc)), hdropped⟩
    rintro rfl
    exact Text.not_mem_of_mem_splitAt h (hpieceSub.subset hc)
  · intro hname
    have hself : keptChars param.1.toList = param.1.toList :=
      keptChars_of_not_isDropped fun c hc => (isBreaker_eq_false_iff.1 (hname c hc)).2.2.2
    have hcut : cutAt (· == '#') param.1.toList = (param.1.toList, none) :=
      cutAt_of_all_not fun c hc =>
        beq_eq_false_iff_ne.2 (isBreaker_eq_false_iff.1 (hname c hc)).2.2.1
    have honly : '&' ∉ param.1.toList ++ '=' :: encodeComponent param.2.toList := by
      rw [List.mem_append, List.mem_cons, not_or, not_or]
      exact ⟨fun hc => (isBreaker_eq_false_iff.1 (hname _ hc)).1 rfl, by decide, hvalue⟩
    rcases cutAt_keptChars_pairChars param with ⟨-, hhash⟩ | hleft
    · exact absurd rfl (isBreaker_eq_false_iff.1 (hname _ hhash)).2.2.1
    · rw [hleft, hself, hcut, Text.splitAt_of_not_mem honly, List.mem_singleton] at h
      rw [h, cutAt_append_cons _ rfl]
      intro c hc
      exact beq_eq_false_iff_ne.2 (isBreaker_eq_false_iff.1 (hname c hc)).2.1

/-- The name of a parameter that is received was read off an unbroken part of a name that was
written, and off all of it if nothing breaks that name. -/
theorem exists_of_mem_received {params : Parameters} (hne : params ≠ [])
    {got : String × String} (h : got ∈ received (sentQuery (written params))) :
    ∃ param ∈ params, ∃ part : List Char, part.Sublist param.1.toList ∧
      (∀ c ∈ part, isBreaker c = false) ∧
      ((∀ c ∈ param.1.toList, isBreaker c = false) → part = param.1.toList) ∧
      got.1.toList = decodeComponent (encodeQuery part) := by
  rw [received, sentQuery, trimEnd_written hne, splitAt_encodeQuery, List.map_map,
    List.mem_map] at h
  obtain ⟨piece, hpiece, rfl⟩ := h
  obtain ⟨param, hparam, hpieceOf⟩ := exists_of_mem_splitAt_written hne hpiece
  obtain ⟨hsub, hwhole, hall⟩ := name_of_mem_splitAt_pairChars hpieceOf
  refine ⟨param, hparam, _, hsub, hwhole, hall, ?_⟩
  simp [readPair, cutAt_encodeQuery]

end Signing

namespace Connection

open Signing Url

/-! ## Requests -/

/-- The parameters of a request in the order in which they are written. -/
def sentParameters (credentials : Credentials) (command : Command) : Parameters :=
  match credentials with
  | .integration => ordered (parameters command)
  | .keys pair =>
    let params := parameters command ++ [("apikey", pair.apiKey)]
    ordered params ++ [("signature", sign (canonicalQuery params) pair.secretKey)]

theorem toList_query (credentials : Credentials) (command : Command) :
    (query credentials command).toList = written (sentParameters credentials command) := by
  cases credentials with
  | integration => exact toList_canonicalQuery _
  | keys pair => exact toList_signedQuery (by simp) _

theorem sentParameters_ne_nil (credentials : Credentials) (command : Command) :
    sentParameters credentials command ≠ [] := by
  cases credentials with
  | integration =>
    intro hnil
    have hlength := (ordered_perm (parameters command)).length_eq
    rw [show ordered (parameters command) = [] from hnil, List.length_nil] at hlength
    exact absurd hlength (by simp [parameters])
  | keys pair => exact List.append_ne_nil_of_right_ne_nil _ (by simp)

/-- A request goes to the endpoint, with the connection's parameters as its query. -/
theorem exists_request (connection : Connection) {settings : ManagementSettings} {base : Url}
    (hendpoint : connection.endpoint = settings.endpoint)
    (hbase : Url.parse settings.endpoint = .ok base)
    (hplain : ∀ c ∈ settings.endpoint.toList, c ≠ '?' ∧ c ≠ '#') (command : Command) :
    ∃ url, ExceptT.run (connection.send command) =
        .send ⟨url, connection.requestTimeout⟩ (fun delivery =>
          .done (receive command url delivery)) ∧
      url.scheme = base.scheme ∧ url.host = base.host ∧ url.port = base.port ∧
      url.query = some (sentQuery (written (sentParameters connection.credentials command))) := by
  obtain ⟨url, hurl, hscheme, hhost, hport, hquery⟩ :=
    parse_append_query settings.isClosed_endpoint hbase hplain
  rw [← hendpoint] at hurl
  refine ⟨url, exceptRun_send hurl, hscheme, hhost, hport, ?_⟩
  rw [hquery, toList_query]

end Connection

end ControlPlane
