import ControlPlane.World

/-!
# Scripted servers

A server that answers from a script. A rule names parameters that a request must have, how often
it may be used, and what it answers: late or not, with a status and a body or with nothing. The
first rule that fits and has uses left is taken.

Main statement: `serve_nil` — without rules every request gets the same refusal.
-/
namespace ControlPlane.Script

/-- One rule of a script. -/
structure Rule where
  /-- The parameters that a request must have. -/
  wanted : List (String × String)
  /-- How often the rule may still be used; none is without end. -/
  uses : Option Nat
  delay : Duration
  /-- Status and body, or the end of the connection. -/
  content : Option (Nat × String)
  deriving Repr

/-- The parameters of a request; of several with one name the last counts. -/
def parametersOf (url : Url) : Dictionary String :=
  match url.query with
  | some query =>
    Dictionary.ofList ((Url.parameters query).map fun (name, value) =>
      (String.ofList name, String.ofList value))
  | none => []

/-- Whether a rule fits a request. -/
def Rule.fits (rule : Rule) (params : Dictionary String) : Bool :=
  rule.uses != some 0 &&
    rule.wanted.all fun (name, value) => Dictionary.find? name params == some value

/-- The rule after one use. -/
def Rule.used (rule : Rule) : Rule :=
  { rule with uses := rule.uses.map (· - 1) }

/-- The statuses whose replies have no body. -/
def bodiless : List Nat := [204, 304]

/-- What a rule answers. -/
def Rule.answer (rule : Rule) : Answer where
  delay := rule.delay
  content := rule.content.map fun (status, body) =>
    (status, if bodiless.contains status then "" else body)

/-- The answer to a request that no rule fits. -/
def unscripted : Answer := ⟨.zero, some (404, "no scripted reply")⟩

/-- Answers a request from the rules, which are used up by it. -/
def answerFrom (params : Dictionary String) : List Rule → Answer × List Rule
  | [] => (unscripted, [])
  | rule :: rest =>
    if rule.fits params then (rule.answer, rule.used :: rest)
    else
      let (answer, rest) := answerFrom params rest
      (answer, rule :: rest)

/-- The server of a script. -/
def serve : Server (List Rule) := fun url rules => answerFrom (parametersOf url) rules

theorem serve_nil (url : Url) : serve url [] = (unscripted, []) := rfl

end ControlPlane.Script
