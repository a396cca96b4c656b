import ControlPlane.ClientError
import ControlPlane.Text.Blank
import ControlPlane.Text.Pieces

/-!
# Failures of the program

What the program was about to do when it failed, and the chain of causes below that. A failure is
reported with its causes indented; several causes are numbered.

Main statement: `causes_withContext` — context goes on top of what it explains.
-/
namespace ControlPlane.CommandLine

/-- A failure with its causes, the nearest first. -/
structure Failure where
  message : String
  causes : List String
  deriving DecidableEq, Repr

namespace Failure

/-- A failure without causes. -/
def plain (message : String) : Failure := ⟨message, []⟩

/-- The failure of a client's error. -/
def ofError (error : ClientError) : Failure := ⟨error.message, error.causes⟩

/-- A failure in the course of something. -/
def withContext (message : String) (failure : Failure) : Failure :=
  ⟨message, failure.message :: failure.causes⟩

/-- A cause after its mark; further lines of it are indented. -/
def causeText (mark : String) (indentation : Nat) (cause : String) : String :=
  let lines := (Text.splitAt '\n' cause.toList).map String.ofList
  mark ++ ("\n" ++ String.ofList (List.replicate indentation ' ')).intercalate lines

/-- The mark of a numbered cause, its number in five columns. -/
def numbered (index : Nat) : String :=
  let digits := Number.digits index
  String.ofList (List.replicate (5 - digits.length) ' ' ++ digits) ++ ": "

/-- The texts of causes, numbered from an index on. -/
def numberedFrom (index : Nat) : List String → List String
  | [] => []
  | cause :: rest => causeText (numbered index) 7 cause :: numberedFrom (index + 1) rest

/-- The texts of the causes. -/
def causeTexts : List String → List String
  | [] => []
  | [cause] => [causeText "    " 4 cause]
  | causes => numberedFrom 0 causes

/-- The report of a failure. -/
def report (failure : Failure) : String :=
  let causes := match causeTexts failure.causes with
    | [] => ""
    | texts => "\n\nCaused by:\n" ++ "\n".intercalate texts
  "Error: " ++ failure.message ++ causes ++ "\n"

@[simp] theorem causes_withContext (message : String) (failure : Failure) :
    (failure.withContext message).causes = failure.message :: failure.causes := rfl

end Failure

end ControlPlane.CommandLine
