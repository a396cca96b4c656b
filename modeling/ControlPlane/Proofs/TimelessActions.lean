import ControlPlane.Proofs.SteadyReplies
import ControlPlane.Proofs.Transcripts
import ControlPlane.Proofs.UntypedCommands

/-!
# Actions that do not depend on time

Most actions never look at the clock: they send requests, and at times they draw letters
(`Dialogue.IsTimeless`). What such an action does is settled by the replies and by the letters that
are drawn next. So in two worlds that agree on these, whenever it is begun, it comes to the same
result by the same exchanges (`Dialogue.eq_of_isTimeless`).

Commands of the catalogue that start no job are of this kind (`Connection.isTimeless_execute`), and
what is put together from timeless actions is so too.
-/

namespace ControlPlane

/-- A request changes the clock, the state of the server and its record. -/
theorem World.exists_afterRequest_eq {σ : Type} (request : Request) (world : World σ) :
    ∃ clock state arrivals,
      world.afterRequest request = { world with clock, state, arrivals } := by
  unfold afterRequest deliver after
  split
  · exact ⟨_, _, _, rfl⟩
  · simp only
    split
    · exact ⟨_, _, _, rfl⟩
    · split
      · exact ⟨_, _, _, rfl⟩
      · exact ⟨_, _, _, rfl⟩

/-- Two worlds reply alike, and the letters that are drawn next are the same in both. -/
structure World.Agree {σ τ : Type} (reply : Request → Delivery) (draws : Nat) (world : World σ)
    (world' : World τ) : Prop where
  left : world.Steady reply
  right : world'.Steady reply
  letters : ∀ i < draws, world.letters (world.drawn + i) = world'.letters (world'.drawn + i)

/-- Worlds agree if the answers of their servers depend on the request only, and are the same. -/
theorem World.agree_of_answers {σ τ : Type} {world : World σ} {world' : World τ} {draws : Nat}
    (hlink : world'.link = world.link)
    (hanswers : ∀ url state state', (world'.server url state').1 = (world.server url state).1)
    (hletters : ∀ i < draws, world.letters (world.drawn + i) = world'.letters (world'.drawn + i)) :
    World.Agree (fun request => (world.deliver request).1) draws world world' where
  left request state :=
    (@deliver_eq_of_answer σ world σ { world with state } request rfl
      ((hanswers request.url state world'.state).symm.trans (hanswers _ _ _))).1
  right request state' :=
    (@deliver_eq_of_answer σ world τ { world' with state := state' } request hlink
      (hanswers _ _ _)).1
  letters := hletters

theorem World.Agree.afterRequest {σ τ : Type} {reply : Request → Delivery} {draws : Nat}
    {world : World σ} {world' : World τ} (h : World.Agree reply draws world world')
    (request : Request) :
    World.Agree reply draws (world.afterRequest request) (world'.afterRequest request) := by
  obtain ⟨_, _, _, hworld⟩ := world.exists_afterRequest_eq request
  obtain ⟨_, _, _, hworld'⟩ := world'.exists_afterRequest_eq request
  rw [hworld, hworld']
  exact ⟨h.left.congr rfl rfl, h.right.congr rfl rfl, h.letters⟩

namespace Dialogue

variable {α β σ τ : Type}

/-- A dialogue that neither looks at the clock nor breaks off, and draws at most so many letters. -/
inductive IsTimeless : Nat → Dialogue α → Prop
  | done {draws : Nat} (a : α) : IsTimeless draws (.done a)
  | send {draws : Nat} {request : Request} {next : Delivery → Dialogue α}
    (h : ∀ delivery, IsTimeless draws (next delivery)) : IsTimeless draws (.send request next)
  | draw {draws : Nat} {next : Fin 62 → Dialogue α} (h : ∀ letter, IsTimeless draws (next letter)) :
    IsTimeless (draws + 1) (.draw next)

theorem isTimeless_mono {n m : Nat} {d : Dialogue α} (h : d.IsTimeless n) (hle : n ≤ m) :
    d.IsTimeless m := by
  induction h generalizing m with
  | done a => exact .done a
  | send _ ih => exact .send fun delivery => ih delivery hle
  | draw _ ih =>
    obtain ⟨m, rfl⟩ : ∃ less, m = less + 1 := ⟨m - 1, by omega⟩
    exact .draw fun letter => ih letter (by omega)

theorem isTimeless_bind {n m : Nat} {d : Dialogue α} {f : α → Dialogue β} (h : d.IsTimeless n)
    (hnext : ∀ a, (f a).IsTimeless m) : (d.bind f).IsTimeless (n + m) := by
  induction h with
  | done a => exact isTimeless_mono (hnext a) (Nat.le_add_left _ _)
  | send _ ih => exact .send ih
  | draw _ ih =>
    rw [Nat.add_right_comm]
    exact .draw ih

theorem isTimeless_letters (n : Nat) : (letters n).IsTimeless n := by
  induction n with
  | zero => exact .done _
  | succ n ih =>
    exact .draw fun first => isTimeless_bind (m := 0) ih fun rest => .done _

/-! ## Running them -/

section

variable {reply : Request → Delivery} {draws : Nat} {d : Dialogue α}

/-- In worlds that agree, a timeless dialogue comes to the same value by the same exchanges. -/
theorem eq_of_isTimeless (h : d.IsTimeless draws) {world : World σ} {world' : World τ}
    (hagree : World.Agree reply draws world world') :
    ∃ a, (d.run world).1 = some a ∧ (d.run world').1 = some a ∧
      d.exchanges world = d.exchanges world' := by
  induction h generalizing world world' with
  | done a => exact ⟨a, rfl, rfl, rfl⟩
  | @send draws request next _ ih =>
    have hdelivery : (world'.deliver request).1 = (world.deliver request).1 :=
      (hagree.right.deliver request).trans (hagree.left.deliver request).symm
    obtain ⟨a, hrun, hrun', hexchanges⟩ :=
      ih (world.deliver request).1 (hagree.afterRequest request)
    simp only [run, exchanges]
    rw [hdelivery]
    exact ⟨a, hrun, hrun', congrArg _ hexchanges⟩
  | @draw draws next _ ih =>
    have hfirst : world'.drawOne.1 = world.drawOne.1 := (hagree.letters 0 (Nat.succ_pos _)).symm
    have hnext : World.Agree reply draws world.drawOne.2 world'.drawOne.2 := by
      refine ⟨hagree.left.congr rfl rfl, hagree.right.congr rfl rfl, fun i hi => ?_⟩
      have hletter := hagree.letters (i + 1) (Nat.succ_lt_succ hi)
      simpa only [World.drawOne, Nat.add_assoc, Nat.add_comm 1 i] using hletter
    obtain ⟨a, hrun, hrun', hexchanges⟩ := ih world.drawOne.1 hnext
    refine ⟨a, hrun, ?_, ?_⟩
    · rw [← hrun', ← hfirst]
      rfl
    · simp only [exchanges]
      rw [hfirst]
      exact hexchanges

/-- Without letters, a timeless dialogue leaves a world as it agrees with others. -/
theorem agree_run_of_isTimeless (h : d.IsTimeless 0) {world : World σ} {world' : World τ}
    (hagree : World.Agree reply draws world world') :
    World.Agree reply draws (d.run world).2 world' := by
  -- the index is generalized for the induction; a draw would make it positive
  generalize hnone : (0 : Nat) = none at h
  induction h generalizing world with
  | done a => exact hagree
  | @send _ request next _ ih =>
    obtain ⟨_, _, _, hworld⟩ := world.exists_afterRequest_eq request
    have hnext : World.Agree reply draws (world.afterRequest request) world' := by
      rw [hworld]
      exact ⟨hagree.left.congr rfl rfl, hagree.right, hagree.letters⟩
    exact ih _ hnext hnone
  | draw => exact absurd hnone (by simp)

/-- What is made of the value of a dialogue without saying anything is not exchanged. -/
theorem exchanges_bind_of_silent (d : Dialogue α) {f : α → Dialogue β}
    (hf : ∀ a (world : World σ), (f a).exchanges world = []) (world : World σ) :
    (d.bind f).exchanges world = d.exchanges world := by
  induction d generalizing world with
  | done a => exact hf a world
  | broken => rfl
  | send request next ih => exact congrArg _ (ih _ _)
  | readClock next ih => exact ih _ _
  | wait span next ih => exact ih _
  | draw next ih => exact ih _ _

end

end Dialogue

/-! ## Timeless actions -/

namespace Action

variable {α β σ : Type}

/-- An action whose dialogue is timeless. -/
abbrev IsTimeless (draws : Nat) (action : Action α) : Prop :=
  (ExceptT.run action).IsTimeless draws

theorem isTimeless_pure (a : α) {n : Nat} : (pure a : Action α).IsTimeless n := .done _

theorem isTimeless_throw (error : ClientError) {n : Nat} :
    (throw error : Action α).IsTimeless n := .done _

theorem isTimeless_ofExcept (result : Except ClientError α) {n : Nat} :
    (ofExcept result).IsTimeless n := .done result

theorem isTimeless_bind {n m : Nat} {action : Action α} {f : α → Action β}
    (h : action.IsTimeless n) (hnext : ∀ a, (f a).IsTimeless m) :
    (action >>= f).IsTimeless (n + m) := by
  refine Dialogue.isTimeless_bind h fun result => ?_
  cases result with
  | ok a => exact hnext a
  | error error => exact .done _

theorem isTimeless_letters (n : Nat) : (ofDialogue (Dialogue.letters n)).IsTimeless n :=
  Dialogue.isTimeless_bind (m := 0) (Dialogue.isTimeless_letters n) fun _ => .done _

/-- A value that is made of a result takes no exchange. -/
theorem exchanges_map (action : Action α) (f : α → β) (world : World σ) :
    (ExceptT.run (do let a ← action; return f a)).exchanges world =
      (ExceptT.run action).exchanges world := by
  refine Dialogue.exchanges_bind_of_silent (ExceptT.run action) (fun result _ => ?_) world
  cases result with
  | ok a => rfl
  | error error => rfl

end Action

namespace Connection

variable {α : Type}

theorem isTimeless_send (connection : Connection) (command : Command) :
    (connection.send command).IsTimeless 0 := by
  cases hurl : Url.parse (connection.urlText command) with
  | error fault =>
    rw [send, hurl]
    exact .done _
  | ok url =>
    rw [Action.IsTimeless, exceptRun_send hurl]
    exact .send fun delivery => .done _

/-- Running a command of the catalogue does not depend on time, unless it starts a job. -/
theorem isTimeless_execute (connection : Connection) {call : Call α} (h : call.isAsync = false) :
    (connection.execute call).IsTimeless 0 := by
  rw [execute_of_not_isAsync connection h]
  exact Action.isTimeless_bind (m := 0) (isTimeless_send connection _) fun body =>
    Action.isTimeless_ofExcept _

end Connection

end ControlPlane
