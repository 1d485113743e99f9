import ScriptEngine.Proofs.Recordings
import ScriptEngine.Proofs.UndisturbedObjects

set_option autoImplicit false

namespace ScriptEngine

namespace CallStack

/-- The stacks that lead from the first one to the last, one call entered or left at a time. -/
inductive Path (first : CallStack) : List CallStack → CallStack → Prop where
  | start : Path first [] first
  | enter {trail : List CallStack} {stack pushed : CallStack} {frame : Frame}
      (path : Path first trail stack) (entered : stack.push frame = .ok pushed) :
      Path first (trail ++ [pushed]) pushed
  | leave {trail : List CallStack} {stack : CallStack} (path : Path first trail stack) :
      Path first (trail ++ [stack.pop]) stack.pop

theorem limit_of_push {stack pushed : CallStack} {frame : Frame}
    (entered : stack.push frame = .ok pushed) : pushed.limit = stack.limit := by
  unfold push at entered
  split at entered
  · split at entered
    · cases entered
    · cases entered
      rfl
  · cases entered
    rfl

theorem depth_pop_le (stack : CallStack) : stack.pop.depth ≤ stack.depth := by
  simp [depth, pop]

/-- The limit stays what it is, and no stack on the way is deeper. -/
theorem Path.depth_le {first last : CallStack} {trail : List CallStack} {limit : Nat}
    (path : Path first trail last) (limited : first.limit = some limit)
    (room : first.depth ≤ limit) :
    last.limit = some limit ∧ last.depth ≤ limit ∧ ∀ stack ∈ trail, stack.depth ≤ limit := by
  induction path with
  | start => exact ⟨limited, room, nofun⟩
  | enter _ entered ih =>
    obtain ⟨limited', -, below⟩ := ih
    have within := depth_le_of_push limited' entered
    refine ⟨(limit_of_push entered).trans limited', within, ?_⟩
    exact List.forall_mem_append.mpr ⟨below, by simpa using within⟩
  | @leave _ left _ ih =>
    obtain ⟨limited', room', below⟩ := ih
    have within : left.pop.depth ≤ limit := Nat.le_trans left.depth_pop_le room'
    exact ⟨limited', within, List.forall_mem_append.mpr ⟨below, by simpa using within⟩⟩

end CallStack

section Traces

variable {σ τ α : Type}

/-- Writes the stack down as soon as a frame is there and as soon as it is gone. -/
def Clerk.trace : Clerk σ τ (List CallStack) τ where
  frame stack trail := trail ++ [stack]
  label _ task := task
  task := id
  task_label _ _ := rfl

/-- The trace leads from the first stack to the one that there is, and an execution that comes to
its end is left again. -/
def CallStack.tracing (first : CallStack) (start : Nat) :
    (Clerk.trace : Clerk σ τ (List CallStack) τ).Invariant where
  holds depth state := Path first state.own.record state.stack ∧
    state.space.executions = start + depth
  torn state := Path first state.own.record state.stack
  tear holds := holds.1
  own holds _ := holds
  edit holds _ edit := ⟨holds.1, edit.sameTies.executions.trans holds.2⟩
  enter holds := ⟨holds.1, congrArg (· + 1) holds.2⟩
  leave := by
    rintro depth state ⟨path, count⟩
    refine ⟨path, ?_⟩
    show state.space.executions - 1 = start + depth
    omega
  step := by
    rintro depth state ⟨path, count⟩ course
    cases course with
    | act action => exact ⟨path, (Space.executions_run action state.space).trans count⟩
    | _ => exact ⟨path, count⟩
  hook holds _ := holds
  write holds _ _ _ := holds
  finish holds _ := holds
  rescue holds _ := holds
  push holds _ _ entered := ⟨holds.1.enter entered, holds.2⟩
  pop holds := ⟨holds.1.leave, holds.2⟩
  finish_torn torn _ := torn
  pop_torn torn := torn.leave

/-- However an execution ends, the calls that are active are those from before, and unless a fault
cuts through it has left as many executions as it has entered. A trace, which changes nothing about
the execution, sees the stack grow and shrink by one call at a time, and never beyond the limit. -/
theorem executions_restore_calls (host : Host σ τ) (classes : ClassRegistry) (fuel : Nat)
    (execution : Execution α) (state : RunState σ τ) :
    let plain := execution.run host classes fuel state
    let traced := execution.recorded .trace host classes fuel (state.beside [])
    plain.2.stack = state.stack ∧
    ((∀ fault, plain.1 ≠ .error (.fault fault)) →
      plain.2.space.executions = state.space.executions) ∧
    Prod.map id Clerk.trace.forget traced = plain ∧
    CallStack.Path state.stack traced.2.own.record plain.2.stack ∧
    (∀ limit, state.stack.limit = some limit → state.stack.depth ≤ limit →
      ∀ stack ∈ traced.2.own.record, stack.depth ≤ limit) := by
  intro plain traced
  have begun : (state.stack.tracing state.space.executions).holds 0 (state.beside []) :=
    ⟨.start, rfl⟩
  obtain ⟨same, calls, record⟩ :
      (state.stack.tracing state.space.executions).Kept 0 state.stack traced plain :=
    Clerk.Invariant.execution_beside _ rfl host classes fuel execution begun
  generalize traced = ended at same calls record ⊢
  clear_value plain
  subst same
  have path : CallStack.Path state.stack ended.2.own.record ended.2.stack :=
    record.elim And.left And.right
  refine ⟨calls, fun whole => ?_, rfl, path, fun limit limited room => ?_⟩
  · rcases record with holds | ⟨⟨fault, failed⟩, -⟩
    · exact holds.2
    · exact absurd failed (whole fault)
  · exact (path.depth_le limited room).2.2

end Traces

/-- A host whose native functions call the one object there is, and answer what that answered. -/
private def recursing : Host Unit Empty where
  native _ _ := .call (.callable ⟨0, 0⟩) [] .finish
  hook _ _ write own := (.store write.value, own)

/-- A native function, which will be called with one call active already. -/
private def descent : RunState Unit Empty :=
  ⟨((SpaceAction.allocateNative ⟨"descend", some 0, [], .host 0⟩).run {}).2,
    ⟨[⟨"main", .empty⟩], some 3⟩, (), []⟩

private def descend : Execution Value := .call (.callable ⟨0, 0⟩) [] .empty

/-- The third call does not fit any more. Its error goes through the two calls before it. -/
theorem calls_of_descent :
    let traced := descend.recorded .trace recursing {} 5 (descent.beside [])
    (∃ error, (descend.run recursing {} 5 descent).1 = .error (.raised error)) ∧
    (descend.run recursing {} 5 descent).2.stack = descent.stack ∧
    (descend.run recursing {} 5 descent).2.space.executions = 0 ∧
    traced.2.own.record.map CallStack.depth = [2, 3, 2, 1] ∧
    ∀ stack ∈ traced.2.own.record, stack.depth ≤ 3 := by
  have main := executions_restore_calls recursing {} 5 descend descent
  refine ⟨⟨_, rfl⟩, main.1, main.2.1 nofun, ?_, main.2.2.2.2 3 rfl (by decide)⟩
  decide +kernel

end ScriptEngine
