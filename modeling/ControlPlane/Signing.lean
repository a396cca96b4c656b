import ControlPlane.Digest.Hmac
import ControlPlane.Text.Base64
import ControlPlane.Text.Lowercase
import ControlPlane.Url.Percent

/-!
# Request signatures

A signature covers every parameter of a query but itself. The parameters are sorted by their
names in lower case, written as `name=value` with the value percent-encoded, and joined by `&`
(`canonicalQuery`); the lower-cased text is authenticated by HMAC-SHA1 under the secret and
written in Base64 (`sign`).

Main statements: sorting keeps the parameters (`ordered_perm`), and a signature does not depend
on the signature that came with the parameters (`verify_cons_signature`).
-/
namespace ControlPlane.Signing

/-- Named values, in the order in which they are given. -/
abbrev Parameters := List (String × String)

/-- Whether one name comes no later than another, up to letter case. -/
def nameLe (a b : String × String) : Bool :=
  !decide (Text.lowercaseString b.1 < Text.lowercaseString a.1)

/-- The parameters by name, up to letter case; those that agree keep their order. -/
def ordered (params : Parameters) : Parameters :=
  params.mergeSort nameLe

/-- One parameter as it is written in a query. -/
def writePair (param : String × String) : String :=
  param.1 ++ "=" ++ Url.encodeString param.2

/-- The query that is signed. -/
def canonicalQuery (params : Parameters) : String :=
  "&".intercalate ((ordered params).map writePair)

/-- The signature of a canonical query. -/
def sign (canonical secret : String) : String :=
  String.ofList <| Text.Base64.encode <|
    Digest.Hmac.digest (Url.utf8 secret.toList) (Url.utf8 (Text.lowercase canonical.toList))

/-- The canonical query with its signature at the end. -/
def signedQuery (params : Parameters) (secret : String) : String :=
  let query := canonicalQuery params
  query ++ "&signature=" ++ Url.encodeString (sign query secret)

/-- The parameters that a signature covers. -/
def covered (params : Parameters) : Parameters :=
  params.filter fun param => param.1 != "signature"

/-- Whether a signature is the one of the parameters it came with. -/
def verify (params : Parameters) (secret signature : String) : Bool :=
  sign (canonicalQuery (covered params)) secret == signature

/-! ## What is covered -/

theorem ordered_perm (params : Parameters) : (ordered params).Perm params :=
  List.mergeSort_perm params nameLe

theorem verify_cons_signature (params : Parameters) (secret received signature : String) :
    verify (("signature", received) :: params) secret signature =
      verify params secret signature := by
  simp [verify, covered]

end ControlPlane.Signing
