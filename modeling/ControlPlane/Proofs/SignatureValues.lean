import ControlPlane.Proofs.RequestUrls
import Mathlib.Data.List.Forall2
import Mathlib.Data.Option.Defs

/-!
# The value of a signature in a URL

A signed query ends in `&signature=` and a value of unreserved characters and escapes. Whatever
reads the URL of such a query leaves this end as it is: nothing in it separates, is dropped or is
escaped. So the URLs of two queries that differ in the value of the signature are the same up to
that value (`parse_append_signature`), and so are their targets and texts
(`upToSignature_target`, `upToSignature_text`).
-/

namespace ControlPlane

namespace Signing

/-- What stands in front of the value of a signature. -/
def marker : List Char := '&' :: "signature=".toList

/-- The characters of the value of a signature. -/
def isValueChar (c : Char) : Bool := Url.isUnreserved c || c == '%'

/-- Two texts that are the same, or the same but for the value of a signature. -/
inductive UpToSignature : List Char → List Char → Prop
  | same (cs : List Char) : UpToSignature cs cs
  | signed (front : List Char) {v w : List Char} (back : List Char)
    (hv : ∀ c ∈ v, isValueChar c = true) (hw : ∀ c ∈ w, isValueChar c = true) :
    UpToSignature (front ++ marker ++ v ++ back) (front ++ marker ++ w ++ back)

/-- The same of strings. -/
def TextUpToSignature (s t : String) : Prop := UpToSignature s.toList t.toList

theorem UpToSignature.inside {cs ds : List Char} (h : UpToSignature cs ds)
    (front back : List Char) : UpToSignature (front ++ cs ++ back) (front ++ ds ++ back) := by
  cases h with
  | same => exact .same _
  | signed middle rest hv hw =>
    have hparts : ∀ value, front ++ (middle ++ marker ++ value ++ rest) ++ back =
        front ++ middle ++ marker ++ value ++ (rest ++ back) := by
      intro value
      simp only [List.append_assoc]
    rw [hparts, hparts]
    exact .signed _ _ hv hw

theorem textUpToSignature_refl (s : String) : TextUpToSignature s s := .same _

theorem TextUpToSignature.inside {s t : String} (h : TextUpToSignature s t) (front back : String) :
    TextUpToSignature (front ++ s ++ back) (front ++ t ++ back) := by
  simp only [TextUpToSignature, String.toList_append]
  exact UpToSignature.inside h _ _

theorem isValueChar_encodeComponent {cs : List Char} {c : Char} (h : c ∈ Url.encodeComponent cs) :
    isValueChar c = true := by
  rw [isValueChar, Bool.or_eq_true, beq_iff_eq]
  exact Url.mem_encodeComponent h

end Signing

namespace Url

open Signing

/-! ## Characters that stay as they are -/

/-- Whether a character of a signature and what is in front of it stays as it is. -/
def isSettled (c : Char) : Bool :=
  !isEdge c && isKeptInQuery c && isKeptInFragment c && c != '#' && c != '?'

theorem isSettled_of_isValueChar {c : Char} (h : isValueChar c = true) : isSettled c = true := by
  rw [isValueChar, Bool.or_eq_true, beq_iff_eq] at h
  rcases h with h | rfl
  · exact forall_ascii (P := fun c => isUnreserved c = true → isSettled c = true) (by decide)
      (isAscii_of_isUnreserved h) h
  · decide

theorem isSettled_of_mem_marker_append {v : List Char} (hv : ∀ c ∈ v, isValueChar c = true) :
    ∀ c ∈ marker ++ v, isSettled c = true := by
  have hmarker : marker.all isSettled = true := by decide
  intro c hc
  rcases List.mem_append.1 hc with hc | hc
  · exact List.all_eq_true.1 hmarker c hc
  · exact isSettled_of_isValueChar (hv c hc)

theorem isEdge_of_isSettled {c : Char} (h : isSettled c = true) : isEdge c = false := by
  simp only [isSettled, Bool.and_eq_true, Bool.not_eq_true'] at h
  exact h.1.1.1.1

theorem encodeWith_append_settled {keep : Char → Bool}
    (hkeep : ∀ c, isSettled c = true → keep c = true) (front : List Char) {cs : List Char}
    (h : ∀ c ∈ cs, isSettled c = true) :
    encodeWith keep (front ++ cs) = encodeWith keep front ++ cs := by
  have hself : encodeWith keep cs = cs := by
    induction cs with
    | nil => rfl
    | cons c rest ih =>
      have hrest := ih fun d hd => h d (List.mem_cons_of_mem c hd)
      rw [encodeWith_cons_of_kept (hkeep c (h c List.mem_cons_self)), hrest]
  rw [encodeWith_append, hself]

/-- Text with a settled end is cut in front of that end or not at all. -/
theorem cutAt_append_settled {p : Char → Bool} (hp : ∀ c, isSettled c = true → p c = false)
    (front : List Char) :
    (∃ before after, ∀ cs, (∀ c ∈ cs, isSettled c = true) →
      cutAt p (front ++ cs) = (before, some (after ++ cs))) ∨
    ∀ cs, (∀ c ∈ cs, isSettled c = true) → cutAt p (front ++ cs) = (front ++ cs, none) := by
  rcases cutAt_cases p front with ⟨-, hall⟩ | ⟨before, d, after, rfl, -, hd, hbefore⟩
  · refine Or.inr fun cs hcs => cutAt_of_all_not fun c hc => ?_
    rcases List.mem_append.1 hc with hc | hc
    · exact hall c hc
    · exact hp c (hcs c hc)
  · refine Or.inl ⟨before, after, fun cs _ => ?_⟩
    rw [List.append_assoc, List.cons_append, cutAt_append_cons hbefore hd]

/-! ## Queries and fragments -/

/-- A query and a fragment of which at most one differs, in the value of a signature. -/
def PartsUpToSignature (parts parts' : Option (List Char) × Option (List Char)) : Prop :=
  (Option.Rel Signing.UpToSignature parts.1 parts'.1 ∧ parts.2 = parts'.2) ∨
    (parts.1 = parts'.1 ∧ Option.Rel Signing.UpToSignature parts.2 parts'.2)

/-- Two URLs that are the same, or the same but for the value of a signature. -/
structure UpToSignature (url url' : Url) : Prop where
  scheme : url.scheme = url'.scheme
  host : url.host = url'.host
  port : url.port = url'.port
  path : url.path = url'.path
  rest : PartsUpToSignature (url.query, url.fragment) (url'.query, url'.fragment)

theorem rel_same (part : Option (List Char)) : Option.Rel Signing.UpToSignature part part := by
  cases part with
  | none => exact .none
  | some cs => exact .some (.same cs)

theorem upToSignature_refl (url : Url) : url.UpToSignature url :=
  ⟨rfl, rfl, rfl, rfl, Or.inr ⟨rfl, rel_same _⟩⟩

section Ends

variable {v w : List Char} (hv : ∀ c ∈ v, isValueChar c = true) (hw : ∀ c ∈ w, isValueChar c = true)
include hv hw

theorem rel_append_signature (front : List Char) :
    Option.Rel Signing.UpToSignature (some (front ++ (marker ++ v)))
      (some (front ++ (marker ++ w))) := by
  have hparts : ∀ value, front ++ (marker ++ value) = front ++ marker ++ value ++ [] := by
    intro value
    simp
  rw [hparts, hparts]
  exact .some (.signed front [] hv hw)

/-- A signature at the end comes to stand at the end of the query or of the fragment. -/
theorem queryAndFragment_append_signature (front : List Char) :
    PartsUpToSignature (queryAndFragment (front ++ (marker ++ v)))
      (queryAndFragment (front ++ (marker ++ w))) := by
  have hmarked := isSettled_of_mem_marker_append hv
  have hmarked' := isSettled_of_mem_marker_append hw
  have hkept : ∀ c, isSettled c = true → isKeptInQuery c = true ∧ isKeptInFragment c = true ∧
      (c == '#') = false ∧ (c == '?') = false := by
    intro c hc
    simp only [isSettled, Bool.and_eq_true, bne_iff_ne] at hc
    exact ⟨hc.1.1.1.2, hc.1.1.2, beq_eq_false_iff_ne.2 hc.1.2, beq_eq_false_iff_ne.2 hc.2⟩
  -- the signature stands behind the first `#` of the front, or behind its first `?`, or neither is
  rcases cutAt_append_settled (p := (· == '#')) (fun c hc => (hkept c hc).2.2.1) front with
    ⟨before, after, hcut⟩ | hnone
  · have hencode := fun cs => @encodeWith_append_settled isKeptInFragment
      (fun c hc => (hkept c hc).2.1) after cs
    rw [queryAndFragment, queryAndFragment, hcut _ hmarked, hcut _ hmarked']
    refine Or.inr ⟨rfl, ?_⟩
    simp only [Option.map_some, hencode _ hmarked, hencode _ hmarked']
    exact rel_append_signature hv hw _
  · rw [queryAndFragment, queryAndFragment, hnone _ hmarked, hnone _ hmarked']
    refine Or.inl ⟨?_, rfl⟩
    rcases cutAt_append_settled (p := (· == '?')) (fun c hc => (hkept c hc).2.2.2) front with
      ⟨before, after, hcut⟩ | hnone
    · have hencode := fun cs => @encodeWith_append_settled isKeptInQuery
        (fun c hc => (hkept c hc).1) after cs
      simp only [hcut _ hmarked, hcut _ hmarked', Option.map_some, encodeQuery, hencode _ hmarked,
        hencode _ hmarked']
      exact rel_append_signature hv hw _
    · simp only [hnone _ hmarked, hnone _ hmarked', Option.map_none]
      exact .none

end Ends

/-- The URLs of two queries that differ in the value of a signature at the end are the same up to
that value; if there is no URL of the one, then for the same reason there is none of the other. -/
theorem parse_append_signature (endpoint front : String) {v w : String}
    (hv : ∀ c ∈ v.toList, isValueChar c = true) (hw : ∀ c ∈ w.toList, isValueChar c = true) :
    (∃ fault, parse (endpoint ++ "?" ++ (front ++ "&signature=" ++ v)) = .error fault ∧
      parse (endpoint ++ "?" ++ (front ++ "&signature=" ++ w)) = .error fault) ∨
    ∃ url url', parse (endpoint ++ "?" ++ (front ++ "&signature=" ++ v)) = .ok url ∧
      parse (endpoint ++ "?" ++ (front ++ "&signature=" ++ w)) = .ok url' ∧
      url.UpToSignature url' := by
  -- cleaning drops characters at the edges and within, and none of the signature
  have hclean : ∀ value : String, (∀ c ∈ value.toList, isValueChar c = true) →
      keptChars (trimEnd (front ++ "&signature=" ++ value).toList) =
        keptChars front.toList ++ (marker ++ value.toList) := by
    intro value hvalue
    have hsettled := isSettled_of_mem_marker_append hvalue
    have hlist : (front ++ "&signature=" ++ value).toList =
        front.toList ++ '&' :: ("signature=".toList ++ value.toList) := by
      simp
    have hedge : ∀ c ∈ "signature=".toList ++ value.toList, isEdge c = false := fun c hc =>
      isEdge_of_isSettled (hsettled c (List.mem_cons_of_mem '&' hc))
    rw [hlist, trimEnd_append_cons (by decide), trimEnd_of_not_isEdge hedge, keptChars_append]
    exact congrArg _ (keptChars_of_not_isDropped fun c hc =>
      isDropped_of_not_isEdge (isEdge_of_isSettled (hsettled c hc)))
  rcases parse_query_cases endpoint with ⟨fault, hfault⟩ | ⟨scheme, host, port, path, back, hurl⟩
  · exact Or.inl ⟨fault, hfault _, hfault _⟩
  · refine Or.inr ⟨_, _, hurl _, hurl _, rfl, rfl, rfl, rfl, ?_⟩
    rw [hclean v hv, hclean w hw]
    simpa only [List.append_assoc, List.cons_append] using
      queryAndFragment_append_signature hv hw (back ++ '?' :: keptChars front.toList)

/-! ## What is seen of a URL -/

theorem upToSignature_target {url url' : Url} (h : url.UpToSignature url') :
    TextUpToSignature url.target url'.target := by
  have hquery : Option.Rel Signing.UpToSignature url.query url'.query := by
    rcases h.rest with ⟨hquery, -⟩ | ⟨hquery, -⟩
    · exact hquery
    · rw [show url.query = url'.query from hquery]
      exact rel_same _
  simp only [TextUpToSignature, target, String.toList_ofList, ← h.path]
  generalize url.query = query at hquery
  generalize url'.query = query' at hquery
  cases hquery with
  | none => exact .same _
  | some hquery => simpa using hquery.inside (url.path ++ ['?']) []

theorem upToSignature_text {url url' : Url} (h : url.UpToSignature url') :
    TextUpToSignature url.text url'.text := by
  have htarget := upToSignature_target h
  simp only [text, h.scheme, h.host, h.port]
  rcases h.rest with ⟨-, hfragment⟩ | ⟨hquery, hfragment⟩
  · rw [show url.fragment = url'.fragment from hfragment]
    exact htarget.inside _ _
  · have hsame : url.target = url'.target := by
      rw [target, target, h.path, show url.query = url'.query from hquery]
    rw [hsame]
    simp only at hfragment
    generalize url.fragment = fragment at hfragment
    generalize url'.fragment = fragment' at hfragment
    cases hfragment with
    | none => exact .same _
    | some hfragment =>
      have hmarked := hfragment.inside ['#'] []
      simp only [List.append_nil, List.singleton_append] at hmarked
      simpa only [TextUpToSignature, String.toList_append, String.toList_ofList, List.append_nil]
        using hmarked.inside _ []

end Url

end ControlPlane
