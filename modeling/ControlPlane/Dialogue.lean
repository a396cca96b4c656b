import ControlPlane.ClientError

/-!
# Dialogues with the outside world

What the client does is a dialogue: it sends requests, looks at the clock, waits, and draws
letters at random, and each answer decides how it goes on. A dialogue is data, so it can be run
against any server, alone or beside others, and be reasoned about without running it.

A dialogue ends with a value, or it breaks off because the clock cannot represent a point in
time.

Main statements: the laws of sequencing (`bind_done`, `bind_assoc`, `Action.bind_assoc`).
-/
namespace ControlPlane

/-- A dialogue with the outside world that ends with an `α`. -/
inductive Dialogue (α : Type) where
  | done (a : α)
  /-- Breaks off; there is no value. -/
  | broken
  | send (request : Request) (next : Delivery → Dialogue α)
  | readClock (next : Instant → Dialogue α)
  | wait (span : Duration) (next : Dialogue α)
  /-- Draws one of the 62 letters and digits of ASCII. -/
  | draw (next : Fin 62 → Dialogue α)

namespace Dialogue

variable {α β γ : Type}

/-- One dialogue after another. -/
protected def bind : Dialogue α → (α → Dialogue β) → Dialogue β
  | .done a, f => f a
  | .broken, _ => .broken
  | .send request next, f => .send request fun delivery => (next delivery).bind f
  | .readClock next, f => .readClock fun now => (next now).bind f
  | .wait span next, f => .wait span (next.bind f)
  | .draw next, f => .draw fun letter => (next letter).bind f

instance : Monad Dialogue where
  pure := .done
  bind := Dialogue.bind

@[simp] theorem bind_done (a : α) (f : α → Dialogue β) : (done a).bind f = f a := rfl

@[simp] theorem bind_broken (f : α → Dialogue β) : (broken : Dialogue α).bind f = broken := rfl

theorem bind_assoc (d : Dialogue α) (f : α → Dialogue β) (g : β → Dialogue γ) :
    (d.bind f).bind g = d.bind fun a => (f a).bind g := by
  induction d with
  | done a => rfl
  | broken => rfl
  | send request next ih => simp only [Dialogue.bind]; exact congrArg _ (funext ih)
  | readClock next ih => simp only [Dialogue.bind]; exact congrArg _ (funext ih)
  | wait span next ih => simp only [Dialogue.bind, ih]
  | draw next ih => simp only [Dialogue.bind]; exact congrArg _ (funext ih)

theorem bind_pure (d : Dialogue α) : d.bind .done = d := by
  induction d with
  | done a => rfl
  | broken => rfl
  | send request next ih => simp only [Dialogue.bind]; exact congrArg _ (funext ih)
  | readClock next ih => simp only [Dialogue.bind]; exact congrArg _ (funext ih)
  | wait span next ih => simp only [Dialogue.bind, ih]
  | draw next ih => simp only [Dialogue.bind]; exact congrArg _ (funext ih)

/-- Sends a request. -/
def ask (request : Request) : Dialogue Delivery := .send request .done

/-- Lets time pass. -/
def pause (span : Duration) : Dialogue Unit := .wait span (.done ())

/-- The letters and digits that are drawn from. -/
def alphabet : List Char :=
  "ABCDEFGHIJKLMNOPQRSTUVWXYZabcdefghijklmnopqrstuvwxyz0123456789".toList

/-- The letter of a number. -/
def letter (n : Fin 62) : Char := alphabet[n]

/-- A number of letters at random. -/
def letters : Nat → Dialogue (List Char)
  | 0 => .done []
  | n + 1 => .draw fun first => (letters n).bind fun rest => .done (letter first :: rest)

end Dialogue

/-- A dialogue that may end with an error. -/
abbrev Action (α : Type) := ExceptT ClientError Dialogue α

namespace Action

variable {α β γ : Type}

/-- A dialogue without errors of its own, as an action. -/
def ofDialogue (d : Dialogue α) : Action α := ExceptT.lift d

/-- A result that needs no dialogue. -/
def ofExcept (result : Except ClientError α) : Action α := ExceptT.mk (.done result)

/-- The instant a span after the present; breaks off if the clock cannot represent it. -/
def instantAfter (span : Duration) : Action Instant := ExceptT.mk <|
  .readClock fun now =>
    match now.later? span with
    | some instant => .done (.ok instant)
    | none => .broken

theorem bind_assoc (action : Action α) (f : α → Action β) (g : β → Action γ) :
    action >>= f >>= g = action >>= fun a => f a >>= g := by
  refine ExceptT.ext ((Dialogue.bind_assoc (ExceptT.run action) _ _).trans ?_)
  refine congrArg (Dialogue.bind (ExceptT.run action)) (funext fun result => ?_)
  cases result with
  | ok a => rfl
  | error error => rfl

end Action

end ControlPlane
