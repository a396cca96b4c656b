import ControlPlane.Proofs.QueryPieces
import ControlPlane.Settings.Basic
import Mathlib.Tactic.Set

/-!
# The URL of a request

A request is sent to an endpoint followed by `?` and a query. The parser of URLs reads such a text
as it reads the endpoint: scheme, host and port are the same, and the query is what follows the
first `?` up to a `#`, without tabs and line breaks, with escapes for what a query may not hold
(`parse_append_query`).

This holds because a slash stands between the port of an endpoint and everything after it
(`ManagementSettings.isClosed_endpoint`); white space at the end of a text that ends in its host
would otherwise become part of the host once a query follows. Whatever the endpoint is, though, its
queries are all alike: if one of them makes a URL of it, then every query does
(`exists_parse_of_parse`).
-/

namespace ControlPlane.Url

/-! ## Cutting texts with a fixed end of their front -/

theorem dropWhile_append_cons {p : Char → Bool} {d : Char} (hd : p d = false) (cs ds : List Char) :
    (cs ++ d :: ds).dropWhile p = cs.dropWhile p ++ d :: ds := by
  induction cs with
  | nil => rw [List.nil_append, List.dropWhile_cons_of_neg (by simp [hd])]; rfl
  | cons c cs ih =>
    by_cases hc : p c = true
    · rw [List.cons_append, List.dropWhile_cons_of_pos hc, List.dropWhile_cons_of_pos hc, ih]
    · rw [List.cons_append, List.dropWhile_cons_of_neg hc, List.dropWhile_cons_of_neg hc,
        List.cons_append]

theorem takeWhile_append_cons {p : Char → Bool} {d : Char} (hd : p d = false) (cs ds : List Char) :
    (cs ++ d :: ds).takeWhile p = cs.takeWhile p := by
  induction cs with
  | nil => rw [List.nil_append, List.takeWhile_cons_of_neg (by simp [hd])]; rfl
  | cons c cs ih =>
    by_cases hc : p c = true
    · rw [List.cons_append, List.takeWhile_cons_of_pos hc, List.takeWhile_cons_of_pos hc, ih]
    · rw [List.cons_append, List.takeWhile_cons_of_neg hc, List.takeWhile_cons_of_neg hc]

theorem cutAt_append_left {p : Char → Bool} {cs : List Char} (h : ∀ c ∈ cs, p c = false)
    (ds : List Char) : cutAt p (cs ++ ds) = (cs ++ (cutAt p ds).1, (cutAt p ds).2) := by
  rcases cutAt_cases p ds with ⟨hcut, hall⟩ | ⟨front, d, rest, rfl, hcut, hd, hfront⟩
  · have hboth : ∀ c ∈ cs ++ ds, p c = false := by
      intro c hc
      rcases List.mem_append.1 hc with hc | hc
      · exact h c hc
      · exact hall c hc
    rw [hcut, cutAt_of_all_not hboth]
  · have hboth : ∀ c ∈ cs ++ front, p c = false := by
      intro c hc
      rcases List.mem_append.1 hc with hc | hc
      · exact h c hc
      · exact hfront c hc
    rw [hcut, ← List.append_assoc, cutAt_append_cons hboth hd]

theorem cutAt_cons_of_not {p : Char → Bool} {c : Char} (h : p c = false) (cs : List Char) :
    cutAt p (c :: cs) = (c :: (cutAt p cs).1, (cutAt p cs).2) :=
  @cutAt_append_left p [c] (by simpa using h) cs

/-! ## Blank ends -/

/-- A text without the characters that are dropped at its end. -/
def trimEnd (cs : List Char) : List Char :=
  (cs.reverse.dropWhile isEdge).reverse

/-- The characters of a text that are not dropped wherever they stand. -/
def keptChars (cs : List Char) : List Char :=
  cs.filter fun c => !isDropped c

theorem trimEnd_append_cons {d : Char} (hd : isEdge d = false) (cs ds : List Char) :
    trimEnd (cs ++ d :: ds) = cs ++ d :: trimEnd ds := by
  have hreverse : (cs ++ d :: ds).reverse = ds.reverse ++ d :: cs.reverse := by simp
  rw [trimEnd, hreverse, dropWhile_append_cons hd]
  simp [trimEnd]

theorem trimEnd_of_not_isEdge {cs : List Char} (h : ∀ c ∈ cs, isEdge c = false) :
    trimEnd cs = cs := by
  have hself : cs.reverse.dropWhile isEdge = cs.reverse := by
    cases hreverse : cs.reverse with
    | nil => rfl
    | cons c rest =>
      have hc : isEdge c = false := h c (List.mem_reverse.1 (by rw [hreverse]; simp))
      exact List.dropWhile_cons_of_neg (by simp [hc])
  rw [trimEnd, hself, List.reverse_reverse]

theorem keptChars_append (cs ds : List Char) :
    keptChars (cs ++ ds) = keptChars cs ++ keptChars ds :=
  List.filter_append ..

theorem keptChars_cons {c : Char} (h : isDropped c = false) (cs : List Char) :
    keptChars (c :: cs) = c :: keptChars cs := by
  rw [keptChars, List.filter_cons_of_pos (by simp [h]), ← keptChars]

theorem keptChars_of_not_isDropped {cs : List Char} (h : ∀ c ∈ cs, isDropped c = false) :
    keptChars cs = cs :=
  List.filter_eq_self.2 fun c hc => by rw [h c hc]; rfl

theorem isDropped_of_not_isEdge {c : Char} (h : isEdge c = false) : isDropped c = false := by
  cases hc : isDropped c with
  | false => rfl
  | true =>
    simp only [isDropped, Bool.or_eq_true, beq_iff_eq] at hc
    rcases hc with (rfl | rfl) | rfl
    all_goals exact absurd h (by decide)

/-- A text is cleaned to the right of a character that counts as if nothing stood before it. -/
theorem cleaned_append_cons {d : Char} (hd : isEdge d = false) (cs ds : List Char) :
    cleaned (cs ++ d :: ds) = keptChars (cs.dropWhile isEdge) ++ d :: keptChars (trimEnd ds) := by
  have hfront : cleaned (cs ++ d :: ds) = keptChars (trimEnd ((cs ++ d :: ds).dropWhile isEdge)) :=
    rfl
  rw [hfront, dropWhile_append_cons hd, trimEnd_append_cons hd, keptChars_append,
    keptChars_cons (isDropped_of_not_isEdge hd)]

/-! ## The parser by its parts -/

theorem parse_of_parts {text scheme host : String} {rest before location : List Char}
    {port : Option Nat} {query fragment : Option (List Char)}
    (hscheme : readScheme (cleaned text.toList) = .ok (scheme, rest))
    (hhttp : ¬(scheme ≠ "http" ∧ scheme ≠ "https"))
    (hfragment : cutAt (· == '#') (rest.dropWhile isSlash) = (before, fragment))
    (hquery : cutAt (· == '?') before = (location, query))
    (hauthority : readAuthority scheme (location.takeWhile fun c => !isSlash c) =
      .ok (host, port)) :
    parse text =
      .ok ⟨scheme, host, port,
        normalPath (location.drop (location.takeWhile fun c => !isSlash c).length),
        query.map encodeQuery, fragment.map (encodeWith isKeptInFragment)⟩ := by
  simp only [parse, hscheme, hfragment, hquery, hauthority, bind, Except.bind, if_neg hhttp, pure,
    Except.pure]

theorem parts_of_parse {text : String} {url : Url} (h : parse text = .ok url) :
    ∃ rest before location query fragment,
      readScheme (cleaned text.toList) = .ok (url.scheme, rest) ∧
      ¬(url.scheme ≠ "http" ∧ url.scheme ≠ "https") ∧
      cutAt (· == '#') (rest.dropWhile isSlash) = (before, fragment) ∧
      cutAt (· == '?') before = (location, query) ∧
      readAuthority url.scheme (location.takeWhile fun c => !isSlash c) =
        .ok (url.host, url.port) := by
  simp only [parse, bind, Except.bind, pure, Except.pure] at h
  split at h
  · exact absurd h (by simp)
  · rename_i found hscheme
    obtain ⟨scheme, rest⟩ := found
    by_cases hhttp : scheme ≠ "http" ∧ scheme ≠ "https"
    · simp only [if_pos hhttp] at h
      exact absurd h (by simp)
    · simp only [if_neg hhttp] at h
      split at h
      · exact absurd h (by simp)
      · rename_i authority hauthority
        obtain ⟨host, port⟩ := authority
        simp only [Except.ok.injEq] at h
        subst h
        exact ⟨rest, _, _, _, _, hscheme, hhttp, rfl, rfl, hauthority⟩

/-- A scheme is read up to the first colon, whatever follows it. -/
theorem readScheme_append {front rest : List Char} {scheme : String} (hfront : ':' ∉ front)
    {tail : List Char} (h : readScheme (front ++ ':' :: tail) = .ok (scheme, rest)) :
    rest = tail ∧ ∀ other, readScheme (front ++ ':' :: other) = .ok (scheme, other) := by
  have hcut : ∀ other, cutAt (· == ':') (front ++ ':' :: other) = (front, some other) :=
    fun other => cutAt_append_self hfront other
  rw [readScheme, hcut] at h
  cases front with
  | nil => exact absurd h (by simp)
  | cons first more =>
    by_cases hchars : (first.isAlpha && more.all isSchemeChar) = true
    · simp only [if_pos hchars, Except.ok.injEq, Prod.mk.injEq] at h
      refine ⟨h.2.symm, ?_⟩
      intro other
      rw [readScheme, hcut]
      simp only [if_pos hchars, h.1]
    · simp only [if_neg hchars] at h
      exact absurd h (by simp)

/-! ## Endpoints with a query -/

/-- The authority in a text has an end of its own: a slash after its last character. -/
def IsClosed (cs : List Char) : Prop :=
  ∃ front d rest, cs = front ++ d :: '/' :: rest ∧ ':' ∈ front ∧ isEdge d = false ∧
    isSlash d = false

/-- The query that is left of a text after a `?`. -/
def sentQuery (query : List Char) : List Char :=
  encodeQuery (cutAt (· == '#') (keptChars (trimEnd query))).1

theorem mem_keptChars_dropWhile {c : Char} (hc : isEdge c = false) {cs : List Char}
    (h : c ∈ cs) : c ∈ keptChars (cs.dropWhile isEdge) := by
  obtain ⟨front, rest, rfl⟩ := List.append_of_mem h
  rw [dropWhile_append_cons hc, keptChars_append, keptChars_cons (isDropped_of_not_isEdge hc)]
  exact List.mem_append_right _ (List.mem_cons_self ..)

theorem mem_of_mem_keptChars {c : Char} {cs : List Char} (h : c ∈ keptChars cs) : c ∈ cs :=
  (List.mem_filter.1 h).1

theorem mem_of_mem_trimEnd {c : Char} {cs : List Char} (h : c ∈ trimEnd cs) : c ∈ cs := by
  rw [trimEnd, List.mem_reverse] at h
  exact List.mem_reverse.1 ((List.dropWhile_suffix isEdge).subset h)

/-- What a text with a closed authority is cleaned to, alone and with a query: the two differ only
after the slash that closes it. -/
theorem cleaned_of_isClosed {cs : List Char} (h : IsClosed cs) :
    ∃ front body d path path', ':' ∉ front ∧ isSlash d = false ∧
      (∀ c ∈ body ++ d :: '/' :: path, c ∈ cs) ∧ (∀ c ∈ body ++ d :: '/' :: path', c ∈ cs) ∧
      cleaned cs = front ++ ':' :: (body ++ d :: '/' :: path) ∧
      ∀ query, cleaned (cs ++ '?' :: query) =
        front ++ ':' :: (body ++ d :: '/' :: path' ++ '?' :: keptChars (trimEnd query)) := by
  obtain ⟨start, d, rest, rfl, hcolon, hedge, hslash⟩ := h
  obtain ⟨front, body, hstart, hfront⟩ :=
    List.eq_append_cons_of_mem (mem_keptChars_dropWhile (by decide) hcolon)
  have hbody : ∀ c ∈ body, c ∈ start := by
    intro c hc
    have hmem : c ∈ keptChars (start.dropWhile isEdge) := by
      rw [hstart]
      exact List.mem_append_right _ (List.mem_cons_of_mem _ hc)
    exact (List.dropWhile_suffix isEdge).subset (mem_of_mem_keptChars hmem)
  have hclean : ∀ tail, cleaned (start ++ d :: '/' :: tail) =
      front ++ ':' :: (body ++ d :: '/' :: keptChars (trimEnd tail)) := by
    intro tail
    have hslashEdge : trimEnd ('/' :: tail) = '/' :: trimEnd tail :=
      trimEnd_append_cons (by decide) [] tail
    rw [cleaned_append_cons hedge, hstart, hslashEdge, keptChars_cons (by decide)]
    simp
  have hparts : ∀ path, (∀ c ∈ path, c ∈ rest) →
      ∀ c ∈ body ++ d :: '/' :: path, c ∈ start ++ d :: '/' :: rest := by
    intro path hpath c hc
    rw [List.mem_append, List.mem_cons, List.mem_cons] at hc ⊢
    rcases hc with hc | hc | hc | hc
    · exact Or.inl (hbody c hc)
    · exact Or.inr (Or.inl hc)
    · exact Or.inr (Or.inr (Or.inl hc))
    · exact Or.inr (Or.inr (Or.inr (hpath c hc)))
  refine ⟨front, body, d, keptChars (trimEnd rest), keptChars rest, hfront, hslash, ?_, ?_,
    hclean rest, ?_⟩
  · exact hparts _ fun c hc => mem_of_mem_trimEnd (mem_of_mem_keptChars hc)
  · exact hparts _ fun c hc => mem_of_mem_keptChars hc
  · intro query
    have htext : start ++ d :: '/' :: rest ++ '?' :: query =
        start ++ d :: '/' :: (rest ++ '?' :: query) := by simp
    rw [htext, hclean, trimEnd_append_cons (by decide), keptChars_append,
      keptChars_cons (by decide)]
    simp

/-- An authority ends before the slash that closes it, whatever follows. -/
theorem takeWhile_not_isSlash (front : List Char) (d : Char) (tail : List Char) :
    (front ++ d :: '/' :: tail).takeWhile (fun c => !isSlash c) =
      (front ++ [d]).takeWhile fun c => !isSlash c := by
  have hassoc : front ++ d :: '/' :: tail = (front ++ [d]) ++ '/' :: tail := by simp
  rw [hassoc]
  exact takeWhile_append_cons (by decide) _ tail

/-- A `#` after a `?` is that of the query, if none stands before it. -/
theorem cutAt_append_query {location : List Char} (h : ∀ c ∈ location, (c == '#') = false)
    (query : List Char) :
    cutAt (· == '#') (location ++ '?' :: query) =
      (location ++ '?' :: (cutAt (· == '#') query).1, (cutAt (· == '#') query).2) := by
  rw [cutAt_append_left h, cutAt_cons_of_not (by decide)]

/-- An endpoint with a query is read as the endpoint, with that query. -/
theorem parse_append_query {endpoint query : String} {base : Url}
    (hclosed : IsClosed endpoint.toList) (hbase : parse endpoint = .ok base)
    (hplain : ∀ c ∈ endpoint.toList, c ≠ '?' ∧ c ≠ '#') :
    ∃ url, parse (endpoint ++ "?" ++ query) = .ok url ∧ url.scheme = base.scheme ∧
      url.host = base.host ∧ url.port = base.port ∧ url.query = some (sentQuery query.toList) := by
  obtain ⟨front, body, d, path, path', hfront, hslash, hpath, hpath', hclean, hcleanQuery⟩ :=
    cleaned_of_isClosed hclosed
  obtain ⟨rest, before, location, _, _, hscheme, hhttp, hfragment, hquery, hauthority⟩ :=
    parts_of_parse hbase
  rw [hclean] at hscheme
  obtain ⟨rfl, hscheme'⟩ := readScheme_append hfront hscheme
  -- nothing in the endpoint begins a query or a fragment
  have hno : ∀ tail, (∀ c ∈ body ++ d :: '/' :: tail, c ∈ endpoint.toList) →
      ∀ c ∈ body.dropWhile isSlash ++ d :: '/' :: tail,
        (c == '?') = false ∧ (c == '#') = false := by
    intro tail htail c hc
    have hmem : c ∈ body ++ d :: '/' :: tail := by
      rcases List.mem_append.1 hc with hc | hc
      · exact List.mem_append_left _ ((List.dropWhile_suffix isSlash).subset hc)
      · exact List.mem_append_right _ hc
    rw [beq_eq_false_iff_ne, beq_eq_false_iff_ne]
    exact hplain c (htail c hmem)
  have hbefore : before = body.dropWhile isSlash ++ d :: '/' :: path := by
    rw [dropWhile_append_cons hslash, cutAt_of_all_not fun c hc => (hno path hpath c hc).2]
      at hfragment
    exact (Prod.mk.inj hfragment).1.symm
  have hlocation : location = body.dropWhile isSlash ++ d :: '/' :: path := by
    rw [hbefore, cutAt_of_all_not fun c hc => (hno path hpath c hc).1] at hquery
    exact (Prod.mk.inj hquery).1.symm
  rw [hlocation, takeWhile_not_isSlash] at hauthority
  have hlist : (endpoint ++ "?" ++ query).toList = endpoint.toList ++ '?' :: query.toList := by
    simp
  set sent := keptChars (trimEnd query.toList)
  have hdrop : (body ++ d :: '/' :: path' ++ '?' :: sent).dropWhile isSlash =
      body.dropWhile isSlash ++ d :: '/' :: path' ++ '?' :: sent := by
    rw [List.append_assoc, List.cons_append, dropWhile_append_cons hslash]
    simp
  have hcutFragment :
      cutAt (· == '#') ((body ++ d :: '/' :: path' ++ '?' :: sent).dropWhile isSlash) =
        (body.dropWhile isSlash ++ d :: '/' :: path' ++ '?' :: (cutAt (· == '#') sent).1,
          (cutAt (· == '#') sent).2) := by
    rw [hdrop]
    exact cutAt_append_query (fun c hc => (hno path' hpath' c hc).2) sent
  have hcutQuery : cutAt (· == '?')
      (body.dropWhile isSlash ++ d :: '/' :: path' ++ '?' :: (cutAt (· == '#') sent).1) =
        (body.dropWhile isSlash ++ d :: '/' :: path', some (cutAt (· == '#') sent).1) :=
    cutAt_append_cons (fun c hc => (hno path' hpath' c hc).1) rfl _
  have hschemeQuery : readScheme (cleaned (endpoint ++ "?" ++ query).toList) =
      .ok (base.scheme, body ++ d :: '/' :: path' ++ '?' :: sent) := by
    rw [hlist, hcleanQuery]
    exact hscheme' _
  have hauthorityQuery : readAuthority base.scheme
      ((body.dropWhile isSlash ++ d :: '/' :: path').takeWhile fun c => !isSlash c) =
        .ok (base.host, base.port) := by
    rw [takeWhile_not_isSlash]
    exact hauthority
  exact ⟨_, parse_of_parts hschemeQuery hhttp hcutFragment hcutQuery hauthorityQuery, rfl, rfl, rfl,
    rfl⟩

/-! ## Any text with a query -/

theorem cutAt_fst_append_cons {p : Char → Bool} {d : Char} (hd : p d = true) (cs ds : List Char) :
    (cutAt p (cs ++ d :: ds)).1 = (cutAt p cs).1 := by
  rcases cutAt_cases p cs with ⟨hcut, hall⟩ | ⟨front, c, rest, rfl, hcut, hc, hfront⟩
  · rw [hcut, cutAt_append_cons hall hd]
  · rw [hcut, List.append_assoc, List.cons_append, cutAt_append_cons hfront hc]

/-- What stands before a `#` and before a `?` does not depend on what follows the first `?`. -/
theorem location_append_query (cs query : List Char) :
    (cutAt (· == '?') (cutAt (· == '#') (cs ++ '?' :: query)).1).1 =
      (cutAt (· == '?') (cutAt (· == '#') cs).1).1 := by
  rcases cutAt_cases (· == '#') cs with ⟨hcut, hall⟩ | ⟨front, c, rest, rfl, hcut, hc, hfront⟩
  · rw [hcut, cutAt_append_query hall, cutAt_fst_append_cons (by decide)]
  · rw [hcut, List.append_assoc, List.cons_append, cutAt_append_cons hfront hc]

/-- A scheme is made of its own characters, up to the first colon. -/
theorem exists_of_readScheme {cs rest : List Char} {scheme : String}
    (h : readScheme cs = .ok (scheme, rest)) :
    ∃ front, cs = front ++ ':' :: rest ∧ ':' ∉ front ∧ '?' ∉ front := by
  rcases cutAt_cases (· == ':') cs with ⟨hcut, -⟩ | ⟨front, d, tail, rfl, hcut, hd, hfront⟩
  · rw [readScheme, hcut] at h
    cases cs with
    | nil => exact absurd h (by simp)
    | cons first more => exact absurd h (by simp)
  · rw [readScheme, hcut] at h
    cases front with
    | nil => exact absurd h (by simp)
    | cons first more =>
      by_cases hchars : (first.isAlpha && more.all isSchemeChar) = true
      · simp only [if_pos hchars, Except.ok.injEq, Prod.mk.injEq] at h
        obtain ⟨-, rfl⟩ := h
        rw [Bool.and_eq_true, List.all_eq_true] at hchars
        refine ⟨first :: more, by rw [beq_iff_eq.1 hd], ?_, ?_⟩
        · intro hmem
          exact absurd (hfront _ hmem) (by decide)
        · intro hmem
          rcases List.mem_cons.1 hmem with hfirst | hmem
          · exact absurd (hfirst ▸ hchars.1) (by decide)
          · exact absurd (hchars.2 _ hmem) (by decide)
      · simp only [if_neg hchars] at h
        exact absurd h (by simp)

/-- A scheme in front of a `?` does not depend on what follows it. -/
theorem readScheme_append_query {front tail rest : List Char} {scheme : String}
    (h : readScheme (front ++ '?' :: tail) = .ok (scheme, rest)) :
    ∃ back, rest = back ++ '?' :: tail ∧
      ∀ other, readScheme (front ++ '?' :: other) = .ok (scheme, back ++ '?' :: other) := by
  obtain ⟨before, hsplit, hcolon, hquestion⟩ := exists_of_readScheme h
  rcases List.append_eq_append_iff.1 hsplit with ⟨middle, rfl, hmiddle⟩ | ⟨middle, rfl, hmiddle⟩
  · cases middle with
    | nil => exact absurd (List.cons.inj hmiddle).1 (by decide)
    | cons c middle =>
      rw [← (List.cons.inj hmiddle).1] at hquestion
      exact absurd (by simp) hquestion
  · cases middle with
    | nil => exact absurd (List.cons.inj hmiddle).1 (by decide)
    | cons c back =>
      obtain ⟨rfl, rfl⟩ := List.cons.inj hmiddle
      simp only [List.append_assoc, List.cons_append] at h ⊢
      exact ⟨back, rfl, fun other => (readScheme_append hcolon h).2 _⟩

/-- There is one way to fail to read a scheme. -/
theorem readScheme_error {cs : List Char} {fault : Fault} (h : readScheme cs = .error fault) :
    fault = .noScheme := by
  unfold readScheme at h
  split at h
  · split at h
    · exact absurd h (by simp)
    · exact (Except.error.inj h).symm
  · exact (Except.error.inj h).symm

/-- In front of a `?` there is a scheme or there is none, whatever follows. -/
theorem readScheme_query_cases (front : List Char) :
    (∀ tail, readScheme (front ++ '?' :: tail) = .error .noScheme) ∨
      ∃ scheme back, ∀ tail,
        readScheme (front ++ '?' :: tail) = .ok (scheme, back ++ '?' :: tail) := by
  cases hread : readScheme (front ++ '?' :: []) with
  | ok found =>
    obtain ⟨back, -, hother⟩ := readScheme_append_query hread
    exact Or.inr ⟨found.1, back, hother⟩
  | error fault =>
    refine Or.inl fun tail => ?_
    cases hother : readScheme (front ++ '?' :: tail) with
    | ok found =>
      obtain ⟨back, -, hall⟩ := readScheme_append_query hother
      exact absurd (hread.symm.trans (hall [])) (by simp)
    | error fault => rw [readScheme_error hother]

/-- The query and the fragment in what follows the slashes behind a scheme. -/
def queryAndFragment (cs : List Char) : Option (List Char) × Option (List Char) :=
  ((cutAt (· == '?') (cutAt (· == '#') cs).1).2.map encodeQuery,
    (cutAt (· == '#') cs).2.map (encodeWith isKeptInFragment))

/-- A text with a query is no URL for a reason that has nothing to do with the query, or it is a URL
whose query and fragment alone depend on it. -/
theorem parse_query_cases (endpoint : String) :
    (∃ fault, ∀ query : String, parse (endpoint ++ "?" ++ query) = .error fault) ∨
      ∃ scheme host port path back, ∀ query : String, parse (endpoint ++ "?" ++ query) =
        .ok ⟨scheme, host, port, path,
          (queryAndFragment (back ++ '?' :: keptChars (trimEnd query.toList))).1,
          (queryAndFragment (back ++ '?' :: keptChars (trimEnd query.toList))).2⟩ := by
  have hclean : ∀ query : String, cleaned (endpoint ++ "?" ++ query).toList =
      keptChars (endpoint.toList.dropWhile isEdge) ++ '?' :: keptChars (trimEnd query.toList) := by
    intro query
    rw [← cleaned_append_cons (by decide)]
    simp
  rcases readScheme_query_cases (keptChars (endpoint.toList.dropWhile isEdge)) with
    hnone | ⟨scheme, back, hscheme⟩
  · refine Or.inl ⟨.noScheme, fun query => ?_⟩
    simp only [parse, hclean, hnone, bind, Except.bind]
  · by_cases hhttp : scheme ≠ "http" ∧ scheme ≠ "https"
    · refine Or.inl ⟨.unsupportedScheme, fun query => ?_⟩
      simp only [parse, hclean, hscheme, bind, Except.bind, if_pos hhttp]
    · -- what stands before the query is the same for every query
      obtain ⟨location, hlocation⟩ : ∃ location, ∀ sent, (cutAt (· == '?') (cutAt (· == '#')
          ((back ++ '?' :: sent).dropWhile isSlash)).1).1 = location := by
        refine ⟨(cutAt (· == '?') (cutAt (· == '#') (back.dropWhile isSlash)).1).1, fun sent => ?_⟩
        rw [dropWhile_append_cons (by decide), location_append_query]
      cases hauthority : readAuthority scheme (location.takeWhile fun c => !isSlash c) with
      | error fault =>
        refine Or.inl ⟨fault, fun query => ?_⟩
        simp only [parse, hclean, hscheme, bind, Except.bind, if_neg hhttp, hlocation, hauthority]
      | ok authority =>
        obtain ⟨host, port⟩ := authority
        refine Or.inr ⟨scheme, host, port,
          normalPath (location.drop (location.takeWhile fun c => !isSlash c).length),
          back.dropWhile isSlash, fun query => ?_⟩
        rw [← dropWhile_append_cons (by decide)]
        simp only [parse, hclean, hscheme, bind, Except.bind, if_neg hhttp, pure, Except.pure,
          hlocation, hauthority, queryAndFragment]

/-- Whether a text with a query is a URL does not depend on the query. -/
theorem exists_parse_of_parse {endpoint query : String} {url : Url}
    (h : parse (endpoint ++ "?" ++ query) = .ok url) (other : String) :
    ∃ url', parse (endpoint ++ "?" ++ other) = .ok url' := by
  rcases parse_query_cases endpoint with ⟨fault, hfault⟩ | ⟨_, _, _, _, _, hparse⟩
  · exact absurd (h.symm.trans (hfault query)) (by simp)
  · exact ⟨_, hparse other⟩

end ControlPlane.Url

namespace ControlPlane.ManagementSettings

/-- The endpoint of settings has a slash behind its port, whatever the settings are. -/
theorem isClosed_endpoint (settings : ManagementSettings) :
    Url.IsClosed settings.endpoint.toList := by
  obtain ⟨init, last, hdigits⟩ : ∃ init last, Number.digits settings.port = init ++ [last] :=
    ⟨_, _, (List.dropLast_concat_getLast Nat.toDigits_ne_nil).symm⟩
  have hlast : last.isDigit = true :=
    Nat.isDigit_of_mem_toDigits (b := 10) (n := settings.port) (by decide) (by decide)
      (by rw [← Number.digits, hdigits]; simp)
  have hascii : ∀ n : Fin 0x80, (Char.ofNat n.val).isDigit = true →
      Url.isEdge (Char.ofNat n.val) = false ∧ Url.isSlash (Char.ofNat n.val) = false := by decide
  have hdigit : Url.isEdge last = false ∧ Url.isSlash last = false := by
    have hlt : last.toNat < 0x80 := by
      simp only [Char.isDigit, Bool.and_eq_true, decide_eq_true_eq] at hlast
      exact Nat.lt_of_le_of_lt (show last.toNat ≤ 0x39 from hlast.2) (by decide)
    have hmember := hascii ⟨last.toNat, hlt⟩
    rw [Char.ofNat_toNat] at hmember
    exact hmember hlast
  obtain ⟨rest, hpath⟩ : ∃ rest,
      (if settings.path.toList.head? = some '/' then settings.path
        else "/" ++ settings.path).toList = '/' :: rest := by
    split
    · rename_i hhead
      cases hchars : settings.path.toList with
      | nil =>
        rw [hchars] at hhead
        exact absurd hhead (by simp)
      | cons c rest =>
        rw [hchars] at hhead
        obtain rfl : c = '/' := by simpa using hhead
        exact ⟨rest, rfl⟩
    · exact ⟨settings.path.toList, by simp⟩
  refine ⟨settings.scheme.toList ++ "://".toList ++ settings.host.toList ++ ":".toList ++ init,
    last, rest, ?_, by simp, hdigit.1, hdigit.2⟩
  simp only [endpoint, String.toList_append, hpath, Number.text, String.toList_ofList, hdigits]
  simp

theorem endpoint_loopback :
    endpoint { host := "127.0.0.1", port := 8080 } = "http://127.0.0.1:8080/client/api" := rfl

end ControlPlane.ManagementSettings
