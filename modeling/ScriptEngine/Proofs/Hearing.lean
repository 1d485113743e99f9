import ScriptEngine.Proofs.InvariantExecutions
import ScriptEngine.Proofs.UndisturbedObjects
import ScriptEngine.Proofs.Recordings

set_option autoImplicit false

namespace ScriptEngine

/-- What an action changes about listeners. An action that fails changes nothing. -/
def SpaceAction.heard {α : Type} (action : SpaceAction α) (space : Space) : List ListenerChange :=
  match (action.run space).1 with
  | .ok _ => action.listenerChanges
  | .error _ => []

section

variable {σ τ α : Type}

/-- Takes down the changes to listeners, the oldest first. -/
def Clerk.hearing : Clerk σ τ (List ListenerChange) τ where
  step course space _ log :=
    match course with
    | .act action _ => log ++ action.heard space
    | _ => log
  label _ task := task
  task := id
  task_label _ _ := rfl

abbrev Heard (σ : Type) := Recorded σ (List ListenerChange)

/-- An execution that is listened to from its beginning. -/
def Execution.heard (host : Host σ τ) (classes : ClassRegistry) (fuel : Nat)
    (execution : Execution α) (state : RunState σ τ) : Except Halt α × RunState (Heard σ) τ :=
  execution.recorded .hearing host classes fuel (state.beside [])

/-- An execution that is listened to ends as the execution itself does. -/
theorem Execution.forget_heard (host : Host σ τ) (classes : ClassRegistry) (fuel : Nat)
    (execution : Execution α) (state : RunState σ τ) :
    Prod.map id Clerk.hearing.forget (execution.heard host classes fuel state) =
      execution.run host classes fuel state :=
  Clerk.forget_execution_beside rfl host classes fuel execution state []

end

namespace Space

/-- Whatever is made may be made below any context. -/
def Bases.any : Bases := ⟨fun _ _ => True, fun _ => false⟩

/-- The space has come this way from the start, with these changes to listeners. -/
inductive Trail (start : Space) : List ListenerChange → Space → Prop where
  | start : Trail start [] start
  | move {log : List ListenerChange} {before after : Space} (trail : Trail start log before)
      (move : Move .any before after) : Trail start log after
  | listen {log : List ListenerChange} {before after : Space} {change : ListenerChange}
      (trail : Trail start log before) (listened : Listened change before after) :
      Trail start (log ++ [change]) after
  | count {log : List ListenerChange} {space : Space} (trail : Trail start log space)
      (executions : Nat) : Trail start log { space with executions }

section

variable {start before after : Space} {change : ListenerChange} {log : List ListenerChange}

namespace Trail

theorem tidy (trail : Trail start log after) (tidy : start.Tidy) : after.Tidy := by
  induction trail with
  | start => exact tidy
  | move _ move ih => exact move.tidy ih
  | listen _ listened => exact listened.tidy
  | count _ _ ih => exact ih.congr rfl rfl rfl

theorem moved (trail : Trail start log before) (moved : Moved .any before after) :
    Trail start log after := by
  induction moved with
  | refl => exact trail
  | tail _ move ih => exact ih.move move

end Trail

variable {α : Type} {action : SpaceAction α}

theorem heard_of_silent {space : Space}
    (silent : ∀ answer, (action.run space).1 = .ok answer → action.listenerChanges = []) :
    action.heard space = [] := by
  unfold SpaceAction.heard
  split
  · next answer ended => exact silent answer ended
  · rfl

/-- An action goes on with the trail, unless it is a collection. -/
theorem Acted.trail (trail : Trail start log before)
    (acted : Acted .any action before) :
    (∃ extra, (action.run before).2 = (before.collect extra).2 ∧ action.heard before = []) ∨
      Trail start (log ++ action.heard before) (action.run before).2 := by
  cases acted with
  | collect extra collects silent =>
    exact .inl ⟨extra, collects, heard_of_silent fun _ _ => silent⟩
  | listen change noted ended listened =>
    obtain ⟨answer, ended⟩ := ended
    simp only [SpaceAction.heard, ended, noted]
    exact .inr (trail.listen listened)
  | move moved silent =>
    rw [heard_of_silent silent, List.append_nil]
    exact .inr (trail.moved moved)

theorem Trail.act (trail : Trail start log before) (tidy : before.Tidy)
    (busy : before.inExecution = true) (action : SpaceAction α) :
    Trail start (log ++ action.heard before) (action.run before).2 := by
  rcases (acted_run tidy action fun _ _ => trivial).trail trail with ⟨extra, collects, silent⟩ | on
  · rw [collects, silent, List.append_nil]
    exact trail.move (move_collect busy extra)
  · exact on

end

end Space

section

variable {σ τ : Type} {start : Space}

/-- The space has come along a trail with the changes that were taken down. -/
def Law.tracked (σ : Type) (tidy : start.Tidy) : Law (Heard σ) where
  kept space own := start.Trail own.record space
  bases := .any
  tidy trail := trail.tidy tidy
  move trail move := trail.move move
  grow _ _ := trivial
  count trail executions := trail.count executions
  recount _ _ := trivial
  contexts _ := trivial

namespace Upholds

variable {tidy : start.Tidy} {env : Environment (Heard σ) τ}

private theorem follow_act {α : Type} (site : SourceInfo) (action : SpaceAction α)
    {next : α → NativeCourse σ τ}
    (rest : ∀ answer,
      Upholds (.tracked σ tidy) [] (Eval.follow env site ((next answer).recorded .hearing))) :
    Upholds (.tracked σ tidy) []
      (Eval.follow env site ((NativeCourse.act action next).recorded .hearing)) := by
  intro state ready
  have trail := Space.Trail.act ready.kept (ready.kept.tidy tidy) ready.busy action
  have executions := Space.executions_run action state.space
  -- The note is taken before the action, and says already how the action will end.
  let after := (action.run state.space).2
  have begun : (Law.tracked σ tidy).Onward state
      { state with space := after, own.record := state.own.record ++ action.heard state.space } :=
    ⟨trail, id, Nat.le_of_eq executions.symm⟩
  simp only [NativeCourse.recorded, NativeCourse.noting, Eval.follow, Act.bind_apply, Run.ofSpace]
  dsimp only [after, Clerk.hearing] at begun ⊢
  generalize action.run state.space = ended at begun
  rcases ended with ⟨fault | answer, last⟩
  · exact begun
  · exact begun.trans (rest answer _ (ready.after begun))

private theorem follow_heard (lawful : env.Lawful (.tracked σ tidy)) (site : SourceInfo)
    (course : NativeCourse σ τ) :
    Upholds (.tracked σ tidy) [] (Eval.follow env site (course.recorded .hearing)) := by
  induction course with
  | finish result => exact orRaise result
  | abort fault => exact throw _
  | look next ih => exact fun state ready => ih _ state ready
  | act action next ih => exact follow_act site action ih
  | write object key value place next ih => exact follow_write lawful object key value place ih
  | change update next ih =>
    intro state ready
    have onward := ih { state with own.own := update state.own.own }
      ⟨ready.kept, ready.busy, ready.known⟩
    exact ⟨onward.kept, onward.grown, onward.executions⟩
  | queue task next ih =>
    intro state ready
    have onward := ih { state with queue := state.queue ++ [task] }
      ⟨ready.kept, ready.busy, ready.known⟩
    exact ⟨onward.kept, onward.grown, onward.executions⟩
  | call callee arguments next ih => exact follow_call lawful callee arguments ih
  | trigger object event data next ih => exact follow_trigger lawful object event data ih
  | execute context program next ih =>
    exact follow_execute lawful context program (fun _ _ => trivial) ih

private theorem consult_heard (host : Host σ τ) (number : Nat) (write : HostWrite) :
    Upholds (.tracked σ tidy) [] (Eval.consult (host.recorded .hearing) number write) :=
  fun _ ready => ⟨ready.kept, id, Nat.le_refl _⟩

end Upholds

theorem Host.heard_lawful (host : Host σ τ) (tidy : start.Tidy) :
    (Manner.recorded .hearing host).Lawful (.tracked σ tidy) (host.recorded .hearing) where
  hook := Upholds.consult_heard host
  write := Upholds.writePlace (Upholds.consult_heard host)
  finish upholds := upholds
  rescue := Upholds.rescuing
  frame frame _ upholds := by
    rw [Clerk.frame_recorded fun _ _ => rfl]
    exact Upholds.framed frame upholds
  allow kept _ := ⟨⟨kept, id, Nat.le_refl _⟩, fun _ _ => trivial⟩
  body lawful kind call := Upholds.follow_heard lawful call.site (host.course kind call)

variable {state : RunState σ τ}

/-- Where an execution has come to, with the changes to listeners on the way. -/
theorem Execution.trail {α : Type} (tidy : state.space.Tidy) (host : Host σ τ)
    (classes : ClassRegistry) (fuel : Nat) (execution : Execution α) :
    state.space.Trail (execution.heard host classes fuel state).2.own.record
      (execution.run host classes fuel state).2.space := by
  have begun : (Law.tracked σ tidy).kept state.space ⟨state.own, []⟩ := .start
  rw [← execution.forget_heard]
  exact (Upholds.executionBy (host.heard_lawful tidy) classes fuel execution begun
    fun _ _ => trivial).kept

end

end ScriptEngine
