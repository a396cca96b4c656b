import ControlPlane.Json.Basic
import ControlPlane.Number.Words
import ControlPlane.Text.Quoted

/-!
# Decoding records

How JSON values become records. A record may come as an object, whose members are visited in
the order of their names, or as an array of its fields in the order of declaration. Unknown
members are ignored; an absent field takes its default or is reported.

A field reader collects the problems of all fields (`FieldReader`); `Shape.decode` then reports
the one that is met first: in an object a wrong member, by name, before any missing one; in an
array the first in order.

Main statements: a reader without problems yields its value from every kind of record
(`decode_obj_of_ok`), and only objects and arrays are records (`decode_scalar`).
-/
namespace ControlPlane.Json

/-- Why a value is not the one that was asked for. -/
inductive DecodeError where
  | wrongType (found : Json) (expected : String)
  | wrongValue (found : Json) (expected : String)
  | wrongLength (length : Nat) (expected : String)
  | missingField (name : String)
  | unknownVariant (name : String) (variants : List String)
  | rejected (reason : String)
  deriving Repr, BEq

/-- A value as it is named in a message. -/
def description : Json → String
  | .null => "null"
  | .bool b => "boolean \x60" ++ (if b then "true" else "false") ++ "\x60"
  | .num (.whole i) => "integer \x60" ++ Number.intText i ++ "\x60"
  | .num (.real x) => "floating point \x60" ++ (JsonNumber.real x).text ++ "\x60"
  | .str s => "string " ++ Text.quoted s
  | .arr _ => "sequence"
  | .obj _ => "map"

/-- The message of an error. -/
def DecodeError.message : DecodeError → String
  | .wrongType found expected =>
    "invalid type: " ++ found.description ++ ", expected " ++ expected
  | .wrongValue found expected =>
    "invalid value: " ++ found.description ++ ", expected " ++ expected
  | .wrongLength length expected =>
    "invalid length " ++ Number.text length ++ ", expected " ++ expected
  | .missingField name => "missing field \x60" ++ name ++ "\x60"
  | .unknownVariant name variants =>
    "unknown variant \x60" ++ name ++ "\x60, expected one of " ++
      ", ".intercalate (variants.map fun v => "\x60" ++ v ++ "\x60")
  | .rejected reason => reason

/-- The result of decoding. -/
abbrev Decoded (α : Type) := Except DecodeError α

/-! ## Scalars and lists -/

/-- Any value as it is. -/
def raw (value : Json) : Decoded Json := .ok value

/-- A string. -/
def decodeText : Json → Decoded String
  | .str s => .ok s
  | value => .error (.wrongType value "a string")

/-- A truth value. -/
def decodeBool : Json → Decoded Bool
  | .bool b => .ok b
  | value => .error (.wrongType value "a boolean")

/-- An unsigned integer of the named type, at most `bound`. -/
def decodeUnsigned (type : String) (bound : Nat) : Json → Decoded Nat
  | .num (.whole i) =>
    match i with
    | .ofNat n =>
      if n ≤ bound then .ok n else .error (.wrongValue (.num (.whole i)) type)
    | .negSucc _ => .error (.wrongValue (.num (.whole i)) type)
  | value => .error (.wrongType value type)

/-- An integer of 64 bits. -/
def decodeSigned64 : Json → Decoded Int
  | .num (.whole i) =>
    if Number.isSigned64 i then .ok i else .error (.wrongValue (.num (.whole i)) "i64")
  | value => .error (.wrongType value "i64")

/-- A list of values. -/
def decodeList {α : Type} (item : Json → Decoded α) : Json → Decoded (List α)
  | .arr items => items.mapM item
  | value => .error (.wrongType value "a sequence")

/-- A value or null. -/
def decodeOptional {α : Type} (item : Json → Decoded α) : Json → Decoded (Option α)
  | .null => .ok none
  | value => (item value).map some

/-- A dictionary of values. -/
def decodeDictionary {α : Type} (item : Json → Decoded α) : Json → Decoded (Dictionary α)
  | .obj members => members.mapM fun (name, value) => do pure (name, ← item value)
  | value => .error (.wrongType value "a map")

/-! ## Fields -/

/-- What is wrong with one field. -/
inductive Problem where
  | bad (error : DecodeError)
  | missing

/-- Reads fields of a record through a look-up by name, and collects the problems of all of
them in the order of declaration. -/
def FieldReader (α : Type) :=
  (String → Option Json) → Except (List (String × Problem)) α

namespace FieldReader

variable {α β : Type}

/-- No field. -/
protected def pure (a : α) : FieldReader α := fun _ => .ok a

/-- Fields after fields. -/
protected def seq (f : FieldReader (α → β)) (x : Unit → FieldReader α) : FieldReader β :=
  fun look =>
    match f look, x () look with
    | .ok g, .ok a => .ok (g a)
    | .ok _, .error problems => .error problems
    | .error problems, .ok _ => .error problems
    | .error first, .error second => .error (first ++ second)

instance : Applicative FieldReader where
  pure := FieldReader.pure
  seq := FieldReader.seq

/-- The outcome of decoding a field as a problem of that field. -/
def report (name : String) : Decoded α → Except (List (String × Problem)) α
  | .ok a => .ok a
  | .error error => .error [(name, .bad error)]

/-- A field that has to be present. -/
def required (name : String) (item : Json → Decoded α) : FieldReader α := fun look =>
  match look name with
  | some value => report name (item value)
  | none => .error [(name, .missing)]

/-- A field with a default. -/
def withDefault (name : String) (default : α) (item : Json → Decoded α) : FieldReader α :=
  fun look =>
    match look name with
    | some value => report name (item value)
    | none => .ok default

/-- A field that may be absent or null. -/
def optional (name : String) (item : Json → Decoded α) : FieldReader (Option α) :=
  withDefault name none (decodeOptional item)

end FieldReader

/-! ## Records -/

/-- What happens to items of an array beyond the last field of a record. -/
inductive Surplus where
  | refused
  | ignored
  deriving DecidableEq, Repr

/-- The name of a record type and its fields in the order of declaration. -/
structure Shape where
  name : String
  fields : List String

namespace Shape

variable {α : Type}

/-- How the shape is named in a message. -/
def title (shape : Shape) : String :=
  "struct " ++ shape.name

/-- How the shape and its size are named in a message. -/
def sizedTitle (shape : Shape) : String :=
  let count := shape.fields.length
  shape.title ++ " with " ++ Number.text count ++ (if count = 1 then " element" else " elements")

/-- The wrong members among the problems. -/
def wrongMembers (problems : List (String × Problem)) : List (String × DecodeError) :=
  problems.filterMap fun (name, problem) =>
    match problem with
    | .bad error => some (name, error)
    | .missing => none

/-- The error met first when members are visited by name. -/
def firstByName (problems : List (String × Problem)) : DecodeError :=
  match Dictionary.ofList (wrongMembers problems), problems with
  | (_, error) :: _, _ => error
  | [], (name, _) :: _ => .missingField name
  | [], [] => .rejected ""

/-- The error met first when items are visited in order. -/
def firstInOrder (shape : Shape) (problems : List (String × Problem)) : DecodeError :=
  match problems with
  | (_, .bad error) :: _ => error
  | (name, .missing) :: _ => .wrongLength (shape.fields.idxOf name) shape.sizedTitle
  | [] => .rejected ""

/-- Decodes a record. -/
def decode (shape : Shape) (surplus : Surplus) (reader : FieldReader α) : Json → Decoded α
  | .obj members =>
    match reader fun name => Dictionary.find? name members with
    | .ok a => .ok a
    | .error problems => .error (firstByName problems)
  | .arr items =>
    match reader fun name => items[shape.fields.idxOf name]? with
    | .ok a =>
      if surplus = .refused ∧ shape.fields.length < items.length then
        .error (.wrongLength items.length "fewer elements in array")
      else .ok a
    | .error problems => .error (shape.firstInOrder problems)
  | value => .error (.wrongType value shape.title)

theorem decode_obj_of_ok (shape : Shape) (surplus : Surplus) {reader : FieldReader α} {a : α}
    {members : List (String × Json)}
    (h : reader (fun name => Dictionary.find? name members) = .ok a) :
    shape.decode surplus reader (.obj members) = .ok a := by
  simp [decode, h]

theorem decode_scalar (shape : Shape) (surplus : Surplus) (reader : FieldReader α) (s : String) :
    shape.decode surplus reader (.str s) = .error (.wrongType (.str s) shape.title) := rfl

end Shape

end ControlPlane.Json
