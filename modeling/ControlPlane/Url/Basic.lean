import ControlPlane.Url.Host

/-!
# URLs

The URL of a request is an endpoint and a query, read by the rules of the URL Standard for
`http` and `https`: tabs and line feeds are dropped, dot segments are resolved, a backslash
separates path segments, characters with another meaning are percent-encoded, and what follows
`#` is never sent. `Url.parse` gives the normal form, `Url.target` the part the server receives
and `Url.text` the whole.

Main statements: a path is never empty (`path_ne_nil_of_normalPath`), and the query keeps the
characters of a canonical query as they are (`encodeQuery_of_kept`).
-/
namespace ControlPlane

open Url (Fault)

/-- A URL in normal form. -/
structure Url where
  scheme : String
  host : String
  /-- The port, unless it is the one the scheme implies. -/
  port : Option Nat
  path : List Char
  query : Option (List Char)
  fragment : Option (List Char)
  deriving DecidableEq, Repr

namespace Url

/-- Controls of the C0 block and characters beyond ASCII, which are escaped everywhere. -/
def isAlwaysEscaped (c : Char) : Bool :=
  decide (c.toNat < 0x20) || decide (0x7F ≤ c.toNat)

/-- Characters that stand for themselves in a path. -/
def isKeptInPath (c : Char) : Bool :=
  !(isAlwaysEscaped c || [' ', '"', '<', '>', '\x60', '\x7b', '\x7d', '#', '?'].contains c)

/-- Characters that stand for themselves in a query. -/
def isKeptInQuery (c : Char) : Bool :=
  !(isAlwaysEscaped c || [' ', '"', '<', '>', '#', '\''].contains c)

/-- Characters that stand for themselves in a fragment. -/
def isKeptInFragment (c : Char) : Bool :=
  !(isAlwaysEscaped c || [' ', '"', '<', '>', '\x60'].contains c)

/-- The written form of a query. -/
def encodeQuery (cs : List Char) : List Char :=
  encodeWith isKeptInQuery cs

/-- Whether a path segment means "here", also when its dot is escaped. -/
def isSingleDot (segment : List Char) : Bool :=
  let s := segment.map Char.toLower
  s == ['.'] || s == ['%', '2', 'e']

/-- Whether a path segment means "one level up". -/
def isDoubleDot (segment : List Char) : Bool :=
  let s := segment.map Char.toLower
  let dot := ['%', '2', 'e']
  s == ['.', '.'] || s == '.' :: dot || s == dot ++ ['.'] || s == dot ++ dot

/-- The segments left after resolving dot segments, the innermost first. -/
def resolveDots (done : List (List Char)) : List (List Char) → List (List Char)
  | [] => done
  | [last] =>
    if isDoubleDot last then [] :: done.drop 1
    else if isSingleDot last then [] :: done
    else last :: done
  | segment :: rest =>
    if isDoubleDot segment then resolveDots (done.drop 1) rest
    else if isSingleDot segment then resolveDots done rest
    else resolveDots (segment :: done) rest

/-- Whether a character separates path segments. -/
def isSlash (c : Char) : Bool :=
  c == '/' || c == '\\'

/-- The normal form of a path. -/
def normalPath (cs : List Char) : List Char :=
  let body := match cs with
    | c :: rest => if isSlash c then rest else cs
    | [] => []
  let segments := (resolveDots [] (Text.splitBy isSlash body)).reverse
  segments.flatMap fun segment => '/' :: encodeWith isKeptInPath segment

/-- Splits a text at the first character that `p` holds of, dropping it. -/
def cutAt (p : Char → Bool) (cs : List Char) : List Char × Option (List Char) :=
  match cs.dropWhile (fun c => !p c) with
  | [] => (cs, none)
  | _ :: rest => (cs.takeWhile (fun c => !p c), some rest)

/-- Whether a character may stand in a scheme after its first letter. -/
def isSchemeChar (c : Char) : Bool :=
  c.isAlphanum || c == '+' || c == '-' || c == '.'

/-- The scheme in front of the first colon, and what follows it. -/
def readScheme (cs : List Char) : Except Fault (String × List Char) :=
  match cutAt (· == ':') cs with
  | (first :: more, some rest) =>
    if first.isAlpha && more.all isSchemeChar then
      .ok (String.ofList ((first :: more).map Char.toLower), rest)
    else .error .noScheme
  | _ => .error .noScheme

/-- What follows the user information of an authority. -/
def afterUserInfo (authority : List Char) : List Char :=
  ((authority.reverse).takeWhile (· != '@')).reverse

/-- Splits host and port at the first colon outside brackets. -/
def splitHostPort (inBrackets : Bool) : List Char → List Char × Option (List Char)
  | [] => ([], none)
  | c :: rest =>
    if c == ':' && !inBrackets then ([], some rest)
    else
      let inside := if c == '[' then true else if c == ']' then false else inBrackets
      let (host, port) := splitHostPort inside rest
      (c :: host, port)

/-- Reads a port; an empty one is the scheme's own. -/
def readPort (scheme : String) : Option (List Char) → Except Fault (Option Nat)
  | none | some [] => .ok none
  | some cs =>
    match (Number.ofDigits? cs).filter (· ≤ 65535) with
    | none => .error .invalidPort
    | some port =>
      let implied := if scheme = "https" then 443 else 80
      .ok (if port = implied then none else some port)

/-- Whether a character is dropped wherever it stands. -/
def isDropped (c : Char) : Bool :=
  c == '\t' || c == '\n' || c == '\r'

/-- Whether a character is dropped at the ends of a URL. -/
def isEdge (c : Char) : Bool :=
  decide (c.toNat ≤ 0x20)

/-- The text that counts: no blanks around it, no tabs and line breaks in it. -/
def cleaned (cs : List Char) : List Char :=
  let front := cs.dropWhile isEdge
  ((front.reverse.dropWhile isEdge).reverse).filter fun c => !isDropped c

/-- Host and port of an authority. -/
def readAuthority (scheme : String) (authority : List Char) :
    Except Fault (String × Option Nat) := do
  let (host, port) := splitHostPort false (afterUserInfo authority)
  if host.isEmpty then .error .emptyHost
  let port ← readPort scheme port
  let host ← readHost host
  pure (host, port)

/-- Reads a URL. -/
def parse (text : String) : Except Fault Url := do
  let (scheme, rest) ← readScheme (cleaned text.toList)
  if scheme ≠ "http" ∧ scheme ≠ "https" then .error .unsupportedScheme
  let (beforeFragment, fragment) := cutAt (· == '#') (rest.dropWhile isSlash)
  let (location, query) := cutAt (· == '?') beforeFragment
  let authority := location.takeWhile fun c => !isSlash c
  let (host, port) ← readAuthority scheme authority
  pure
    { scheme, host, port
      path := normalPath (location.drop authority.length)
      query := query.map encodeQuery
      fragment := fragment.map (encodeWith isKeptInFragment) }

/-- The part of a URL that is sent: path and query. -/
def target (url : Url) : String :=
  String.ofList (url.path ++ match url.query with
    | some query => '?' :: query
    | none => [])

/-- The whole URL as text. -/
def text (url : Url) : String :=
  let port := match url.port with
    | some port => ":" ++ Number.text port
    | none => ""
  let fragment := match url.fragment with
    | some fragment => String.ofList ('#' :: fragment)
    | none => ""
  url.scheme ++ "://" ++ url.host ++ port ++ url.target ++ fragment

/-- Name and value of one piece of a query, split at its first `=` and decoded; the value is empty
if there is none. -/
def readPair (piece : List Char) : List Char × List Char :=
  let (name, value) := cutAt (· == '=') piece
  (decodeComponent name, decodeComponent (value.getD []))

/-- The parameters of a query: the pieces between `&` that are not empty. -/
def parameters (query : List Char) : List (List Char × List Char) :=
  ((Text.splitAt '&' query).filter (!·.isEmpty)).map readPair

/-! ## Normal forms -/

theorem encodeQuery_of_kept {cs : List Char} (h : ∀ c ∈ cs, isKeptInQuery c = true) :
    encodeQuery cs = cs := by
  induction cs with
  | nil => rfl
  | cons c rest ih =>
    have hc : isKeptInQuery c = true := h c (by simp)
    have hrest := ih fun d hd => h d (by simp [hd])
    simp only [encodeQuery, encodeWith] at hrest ⊢
    simp [hc, hrest]

theorem resolveDots_ne_nil (done : List (List Char)) {segments : List (List Char)}
    (h : segments ≠ []) : resolveDots done segments ≠ [] := by
  induction segments generalizing done with
  | nil => exact absurd rfl h
  | cons segment rest ih =>
    cases rest with
    | nil =>
      unfold resolveDots
      split <;> (try split) <;> simp
    | cons next more =>
      unfold resolveDots
      split
      · exact ih _ (by simp)
      · split
        · exact ih _ (by simp)
        · exact ih _ (by simp)

theorem path_ne_nil_of_normalPath (cs : List Char) : normalPath cs ≠ [] := by
  unfold normalPath
  simp only
  have h := resolveDots_ne_nil [] (Text.splitBy_ne_nil isSlash
    (match cs with | c :: rest => if isSlash c then rest else cs | [] => []))
  intro hnil
  rw [List.flatMap_eq_nil_iff] at hnil
  obtain ⟨segment, hmem⟩ := List.exists_mem_of_ne_nil _ h
  have := hnil segment (by simpa using hmem)
  simp at this

end Url

end ControlPlane
