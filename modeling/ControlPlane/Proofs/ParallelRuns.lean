import ControlPlane.Proofs.ActionRuns
import Mathlib.Data.List.Forall2
import Mathlib.Data.Option.Defs

/-!
# Two runs side by side

What a dialogue keeps to itself shows when it is run twice, in two worlds that differ only in what
should not matter. A `Likeness` says how the URLs of two runs may differ, and the bodies of the
replies to them. Two worlds are alike if their servers give like answers to like requests, however
many and in whatever order (`World.Alike`). Two dialogues are alike if they send like requests and
go on alike after like deliveries (`Dialogue.Alike`); the relation goes along the recursion of both.

Like dialogues in like worlds come to like values, and leave like worlds behind
(`Dialogue.alike_run`).
-/

namespace ControlPlane

/-- How the requests and the replies of two runs may differ. -/
structure Likeness where
  url : Url → Url → Prop
  body : String → String → Prop

variable {α α' β β' σ τ : Type}

/-! ## Related values -/

section Related

variable {V : α → β → Prop}

theorem rel_map {W : α' → β' → Prop} {x : Option α} {y : Option β} (h : Option.Rel V x y)
    {f : α → α'} {g : β → β'} (hfg : ∀ a b, V a b → W (f a) (g b)) :
    Option.Rel W (x.map f) (y.map g) := by
  cases h with
  | none => exact .none
  | some h => exact .some (hfg _ _ h)

theorem rel_imp {W : α → β → Prop} {x : Option α} {y : Option β} (h : Option.Rel V x y)
    (hvalue : ∀ a b, V a b → W a b) : Option.Rel W x y := by
  cases h with
  | none => exact .none
  | some h => exact .some (hvalue _ _ h)

theorem map_eq_map_of_rel {γ : Type} {x : Option α} {y : Option β} (h : Option.Rel V x y)
    {f : α → γ} {g : β → γ} (hfg : ∀ a b, V a b → f a = g b) : x.map f = y.map g := by
  cases h with
  | none => rfl
  | some h => exact congrArg some (hfg _ _ h)

theorem rel_eq_eq : (Option.Rel Eq : Option α → Option α → Prop) = Eq := by
  funext x y
  apply propext
  constructor
  · rintro (rfl | -) <;> rfl
  · rintro rfl
    cases x with
    | none => exact .none
    | some => exact .some rfl

theorem rel_getElem? {xs : List α} {ys : List β} (h : List.Forall₂ V xs ys) (k : Nat) :
    Option.Rel V xs[k]? ys[k]? := by
  induction h generalizing k with
  | nil => exact .none
  | cons hxy _ ih =>
    cases k with
    | zero => exact .some hxy
    | succ k => exact ih k

end Related

/-! ## Like worlds -/

/-- What a server answers to requests, one after another. -/
def Server.answers (server : Server σ) (state : σ) : List Url → List Answer
  | [] => []
  | url :: urls => (server url state).1 :: Server.answers server (server url state).2 urls

namespace Likeness

/-- Like answers come after the same time, and with the same status if they come. -/
inductive Answers (like : Likeness) : Answer → Answer → Prop
  | reply (delay : Duration) (status : Nat) {body body' : String} (h : like.body body body') :
    Answers like ⟨delay, some (status, body)⟩ ⟨delay, some (status, body')⟩
  | nothing (delay : Duration) : Answers like ⟨delay, none⟩ ⟨delay, none⟩

/-- Like requests arrive and leave together; so does what arrived before both runs. -/
inductive Arrives (like : Likeness) : Arrival → Arrival → Prop
  | before (arrival : Arrival) : Arrives like arrival arrival
  | request {url url' : Url} (h : like.url url url') (arrived left : Instant) :
    Arrives like ⟨url.target, arrived, left⟩ ⟨url'.target, arrived, left⟩

/-- How requests for two URLs end in like worlds. -/
inductive Delivers (like : Likeness) (url url' : Url) : Delivery → Delivery → Prop
  | reply (status : Nat) {body body' : String} (h : like.body body body') :
    Delivers like url url' (.reply status body) (.reply status body')
  | late : Delivers like url url' .late .late
  | stranded : Delivers like url url' (.failed (World.stranded url)) (.failed (World.stranded url'))
  | closedEarly :
    Delivers like url url' (.failed (.closedEarly url.text)) (.failed (.closedEarly url'.text))

end Likeness

namespace World

/-- Two worlds in which nothing but a likeness tells two runs apart. -/
structure Alike (like : Likeness) (world : World σ) (world' : World τ) : Prop where
  clock : world.clock = world'.clock
  link : world.link = world'.link
  letters : world.letters = world'.letters
  drawn : world.drawn = world'.drawn
  answers : ∀ urls urls', List.Forall₂ like.url urls urls' →
    List.Forall₂ like.Answers (Server.answers world.server world.state urls)
      (Server.answers world'.server world'.state urls')
  arrivals : List.Forall₂ like.Arrives world.arrivals world'.arrivals

variable {like : Likeness} {world : World σ} {world' : World τ}

theorem Alike.after (h : world.Alike like world') (span : Duration) :
    (world.after span).Alike like (world'.after span) :=
  { h with clock := congrArg (Instant.later · span) h.clock }

theorem Alike.atClock (h : world.Alike like world') (clock : Instant) :
    { world with clock }.Alike like { world' with clock } :=
  { h with clock := rfl }

theorem Alike.drawOne (h : world.Alike like world') :
    world.drawOne.1 = world'.drawOne.1 ∧ world.drawOne.2.Alike like world'.drawOne.2 := by
  refine ⟨?_, { h with drawn := congrArg (· + 1) h.drawn }⟩
  rw [World.drawOne, World.drawOne, h.letters, h.drawn]

/-- A request that reaches the server leaves like worlds behind. -/
theorem Alike.afterAnswer (h : world.Alike like world') {url url' : Url} (hurl : like.url url url')
    (left : Instant) :
    { world with
      state := (world.server url world.state).2
      arrivals := ⟨url.target, world.clock, left⟩ :: world.arrivals }.Alike like
    { world' with
      state := (world'.server url' world'.state).2
      arrivals := ⟨url'.target, world'.clock, left⟩ :: world'.arrivals } := by
  refine { h with answers := ?_, arrivals := .cons ?_ h.arrivals }
  · intro urls urls' hurls
    exact (List.forall₂_cons.1 (h.answers (url :: urls) (url' :: urls') (.cons hurl hurls))).2
  · rw [h.clock]
    exact .request hurl _ _

/-- Like requests end alike in like worlds, and after the same time. -/
theorem Alike.deliver (h : world.Alike like world') {request request' : Request}
    (hurl : like.url request.url request'.url) (hpatience : request.patience = request'.patience) :
    like.Delivers request.url request'.url (world.deliver request).1 (world'.deliver request').1 ∧
      (world.deliver request).2.1 = (world'.deliver request').2.1 ∧
      (world.deliver request).2.2.Alike like (world'.deliver request').2.2 := by
  have hlink := h.link
  unfold World.deliver
  rw [← hpatience]
  cases hdown : world.link with
  | down =>
    rw [hdown] at hlink
    simp only [← hlink]
    exact ⟨.stranded, trivial, h⟩
  | up =>
    rw [hdown] at hlink
    -- the worlds are alike in the answers to any number of requests, so in the answers to one
    have hanswer : like.Answers (world.server request.url world.state).1
        (world'.server request'.url world'.state).1 :=
      (List.forall₂_cons.1 (h.answers [_] [_] (.cons hurl .nil))).1
    have hworlds := fun span => h.afterAnswer hurl (world.clock.later span)
    revert hanswer hworlds
    rcases world.server request.url world.state with ⟨answer, state⟩
    rcases world'.server request'.url world'.state with ⟨answer', state'⟩
    intro hanswer hworlds
    simp only [hdown, ← hlink, ← h.clock] at hworlds ⊢
    cases hanswer with
    | reply delay status hbody =>
      by_cases hlate : request.patience < delay
      · simp only [if_pos hlate]
        exact ⟨.late, trivial, hworlds delay⟩
      · simp only [if_neg hlate]
        exact ⟨.reply status hbody, trivial, hworlds delay⟩
    | nothing delay =>
      by_cases hlate : request.patience < delay
      · simp only [if_pos hlate]
        exact ⟨.late, trivial, hworlds delay⟩
      · simp only [if_neg hlate]
        exact ⟨.closedEarly, trivial, hworlds delay⟩

end World

/-! ## Like dialogues -/

namespace Dialogue

/-- Two dialogues that take the same course with like requests, to values in a relation. -/
inductive Alike (like : Likeness) (V : α → β → Prop) : Dialogue α → Dialogue β → Prop
  | done {a : α} {b : β} (h : V a b) : Alike like V (.done a) (.done b)
  | broken : Alike like V .broken .broken
  | send {request request' : Request} {next : Delivery → Dialogue α}
    {next' : Delivery → Dialogue β} (hurl : like.url request.url request'.url)
    (hpatience : request.patience = request'.patience)
    (h : ∀ delivery delivery', like.Delivers request.url request'.url delivery delivery' →
      Alike like V (next delivery) (next' delivery')) :
    Alike like V (.send request next) (.send request' next')
  | readClock {next : Instant → Dialogue α} {next' : Instant → Dialogue β}
    (h : ∀ now, Alike like V (next now) (next' now)) :
    Alike like V (.readClock next) (.readClock next')
  | wait (span : Duration) {next : Dialogue α} {next' : Dialogue β} (h : Alike like V next next') :
    Alike like V (.wait span next) (.wait span next')
  | draw {next : Fin 62 → Dialogue α} {next' : Fin 62 → Dialogue β}
    (h : ∀ letter, Alike like V (next letter) (next' letter)) :
    Alike like V (.draw next) (.draw next')

variable {like : Likeness} {V : α → β → Prop} {W : α' → β' → Prop}

theorem Alike.bind {d : Dialogue α} {d' : Dialogue β} (h : d.Alike like V d')
    {f : α → Dialogue α'} {f' : β → Dialogue β'}
    (hf : ∀ a b, V a b → (f a).Alike like W (f' b)) :
    (d.bind f).Alike like W (d'.bind f') := by
  induction h with
  | done h => exact hf _ _ h
  | broken => exact .broken
  | send hurl hpatience _ ih => exact .send hurl hpatience ih
  | readClock _ ih => exact .readClock ih
  | wait span _ ih => exact .wait span ih
  | draw _ ih => exact .draw ih

theorem Alike.imp {V' : α → β → Prop} {d : Dialogue α} {d' : Dialogue β} (h : d.Alike like V d')
    (hvalue : ∀ a b, V a b → V' a b) : d.Alike like V' d' := by
  induction h with
  | done h => exact .done (hvalue _ _ h)
  | broken => exact .broken
  | send hurl hpatience _ ih => exact .send hurl hpatience ih
  | readClock _ ih => exact .readClock ih
  | wait span _ ih => exact .wait span ih
  | draw _ ih => exact .draw ih

theorem alike_pause (like : Likeness) (span : Duration) :
    (pause span).Alike like Eq (pause span) :=
  .wait span (.done rfl)

theorem alike_letters (like : Likeness) (n : Nat) : (letters n).Alike like Eq (letters n) := by
  induction n with
  | zero => exact .done rfl
  | succ n ih =>
    refine .draw fun letter => ih.bind ?_
    rintro rest - rfl
    exact .done rfl

/-- Like dialogues in like worlds come to related values, or both break off. -/
theorem alike_run {d : Dialogue α} {d' : Dialogue β} (h : d.Alike like V d') {world : World σ}
    {world' : World τ} (hworld : world.Alike like world') :
    Option.Rel V (d.run world).1 (d'.run world').1 ∧
      (d.run world).2.Alike like (d'.run world').2 := by
  induction h generalizing world world' with
  | done h => exact ⟨.some h, hworld⟩
  | broken => exact ⟨.none, hworld⟩
  | send hurl hpatience _ ih =>
    obtain ⟨hdelivery, hspan, hafter⟩ := hworld.deliver hurl hpatience
    simp only [run, hspan]
    exact ih _ _ hdelivery (hafter.after _)
  | readClock _ ih =>
    simp only [run, hworld.clock]
    exact ih _ hworld
  | wait span _ ih => exact ih (hworld.after span)
  | draw _ ih =>
    obtain ⟨hletter, hafter⟩ := hworld.drawOne
    simp only [run, hletter]
    exact ih _ hafter

end Dialogue

/-! ## Like results -/

/-- Two results that are values in one relation or errors in another. -/
inductive Results {ε ε' : Type} (E : ε → ε' → Prop) (V : α → β → Prop) :
    Except ε α → Except ε' β → Prop
  | ok {a : α} {b : β} (h : V a b) : Results E V (.ok a) (.ok b)
  | error {e : ε} {e' : ε'} (h : E e e') : Results E V (.error e) (.error e')

theorem Results.imp {ε ε' : Type} {E E' : ε → ε' → Prop} {V V' : α → β → Prop}
    {result : Except ε α} {result' : Except ε' β} (h : Results E V result result')
    (herror : ∀ e e', E e e' → E' e e') (hvalue : ∀ a b, V a b → V' a b) :
    Results E' V' result result' := by
  cases h with
  | ok h => exact .ok (hvalue _ _ h)
  | error h => exact .error (herror _ _ h)

theorem Results.map {ε ε' : Type} {E : ε → ε' → Prop} {V : α → β → Prop} {W : α' → β' → Prop}
    {result : Except ε α} {result' : Except ε' β} (h : Results E V result result') {f : α → α'}
    {g : β → β'} (hfg : ∀ a b, V a b → W (f a) (g b)) :
    Results E W (result.map f) (result'.map g) := by
  cases h with
  | ok h => exact .ok (hfg _ _ h)
  | error h => exact .error h

/-! ## Like actions -/

namespace Action

/-- Two actions that take the same course with like requests, to results of the same kind. -/
def Alike (like : Likeness) (E : ClientError → ClientError → Prop) (V : α → β → Prop)
    (action : Action α) (action' : Action β) : Prop :=
  (ExceptT.run action).Alike like (Results E V) (ExceptT.run action')

variable {like : Likeness} {E : ClientError → ClientError → Prop} {V V' : α → β → Prop}
  {W : α' → β' → Prop}

theorem Alike.imp {action : Action α} {action' : Action β} (h : Alike like E V action action')
    (hvalue : ∀ a b, V a b → V' a b) : Alike like E V' action action' :=
  Dialogue.Alike.imp h fun _ _ hresult => hresult.imp (fun _ _ he => he) hvalue

theorem alike_pure {a : α} {b : β} (h : V a b) :
    Alike like E V (pure a : Action α) (pure b : Action β) :=
  .done (.ok h)

theorem alike_throw {e e' : ClientError} (h : E e e') :
    Alike like E V (throw e : Action α) (throw e' : Action β) :=
  .done (.error h)

theorem alike_ofExcept {result : Except ClientError α} {result' : Except ClientError β}
    (h : Results E V result result') : Alike like E V (ofExcept result) (ofExcept result') :=
  .done h

theorem alike_ofDialogue {d : Dialogue α} {d' : Dialogue β} (h : d.Alike like V d') :
    Alike like E V (ofDialogue d) (ofDialogue d') :=
  h.bind fun _ _ hv => .done (.ok hv)

theorem alike_instantAfter (like : Likeness) (span : Duration) :
    Alike like E Eq (instantAfter span) (instantAfter span) := by
  refine .readClock fun now => ?_
  cases now.later? span with
  | none => exact .broken
  | some instant => exact .done (.ok rfl)

/-- Like actions are followed by like actions; after an error nothing follows. -/
theorem Alike.bind {action : Action α} {action' : Action β} (h : Alike like E V action action')
    {f : α → Action α'} {f' : β → Action β'} (hf : ∀ a b, V a b → Alike like E W (f a) (f' b)) :
    Alike like E W (action >>= f) (action' >>= f') := by
  refine Dialogue.Alike.bind h ?_
  intro result result' hresult
  cases hresult with
  | ok hv => exact hf _ _ hv
  | error he => exact .done (.error he)

/-- Like actions in like worlds come to results of the same kind. -/
theorem alike_run {action : Action α} {action' : Action β} (h : Alike like E V action action')
    {world : World σ} {world' : World τ} (hworld : world.Alike like world') :
    Option.Rel (Results E V) (action.run world).1 (action'.run world').1 ∧
      (action.run world).2.Alike like (action'.run world').2 :=
  Dialogue.alike_run h hworld

end Action

end ControlPlane
