import ScriptEngine.Host

set_option autoImplicit false

namespace ScriptEngine

inductive Halt where
  | raised (error : ScriptError)
  | fault (fault : Fault)
  | outOfFuel

inductive Exit where
  | jumped (direction : Jump)
  | returned (value : Value)
  | halted (halt : Halt)

structure RunState (σ τ : Type) where
  space : Space
  stack : CallStack
  own : σ
  queue : List τ

/-- A run that ends early for a reason of type `ε`. -/
abbrev Run (σ τ ε α : Type) := Act (RunState σ τ) ε α

namespace Halt

/-- Gives an error that has no place yet the place of a node. -/
def locate (site : SourceInfo) : Halt → Halt
  | .raised error => .raised (error.locate site)
  | other => other

end Halt

namespace Exit

def raised (error : ScriptError) : Exit := .halted (.raised error)

def fault (fault : Fault) : Exit := .halted (.fault fault)

/-- Gives an error that has no place yet the place of a node. Jumps and returns pass. -/
def locate (site : SourceInfo) : Exit → Exit
  | .halted halt => .halted (halt.locate site)
  | other => other

end Exit

namespace Run

variable {σ τ ε α : Type}

/-- An operation on the space as part of a run. -/
@[always_inline, inline]
def ofSpace (operation : SpaceM α) : Run σ τ Halt α := fun state =>
  match state with
  | ⟨space, stack, own, queue⟩ =>
    let (result, space) := operation space
    (result.mapError .fault, ⟨space, stack, own, queue⟩)

/-- A question about the space as part of a run. -/
@[always_inline, inline]
def askSpace (question : Space → Except Fault α) : Run σ τ Halt α := fun state =>
  ((question state.space).mapError .fault, state)

/-- A run without jumps and returns as part of a node. -/
@[always_inline, inline]
def lift (first : Run σ τ Halt α) : Run σ τ Exit α := first.mapError .halted

def raise (error : ScriptError) : Run σ τ Halt α := throw (.raised error)

/-- Continues with a value unless an error stands in its place. -/
def orRaise : Except ScriptError α → Run σ τ Halt α
  | .ok value => pure value
  | .error error => raise error

/-- Gives errors that leave a node the place of the node. -/
@[always_inline, inline]
def located (site : SourceInfo) (node : Run σ τ Exit α) : Run σ τ Exit α :=
  node.mapError (Exit.locate site)

/-- Runs with the space told that an execution is going on. A fault cuts through, so that the
space is not told about the end. -/
@[always_inline, inline]
def executing (body : Run σ τ Halt α) : Run σ τ Halt α := fun state =>
  match state with
  | ⟨space, stack, own, queue⟩ =>
    match body ⟨space.enterExecution, stack, own, queue⟩ with
    | (.error (.fault fault), state) => (.error (.fault fault), state)
    | (result, ⟨space, stack, own, queue⟩) =>
      (result, ⟨space.leaveExecution, stack, own, queue⟩)

/-- Gives an error that leaves a body the calls that are active there. -/
def attached (stack : CallStack) : Halt → Halt
  | .raised error => .raised (stack.attach error)
  | other => other

/-- The value of a finished body. A return gives its value, and a jump that no loop has caught is
an error. -/
def bodyResult (stack : CallStack) : Except Exit Unit → Except Halt Value
  | .ok _ => .ok .undefined
  | .error (.returned value) => .ok value
  | .error (.jumped .leave) =>
    .error (.raised (stack.attach (.ofKind (.loopControlOutsideLoop "break"))))
  | .error (.jumped .next) =>
    .error (.raised (stack.attach (.ofKind (.loopControlOutsideLoop "continue"))))
  | .error (.halted halt) => .error (attached stack halt)

@[always_inline, inline]
def finishing (body : Run σ τ Exit Unit) : Run σ τ Halt Value := fun state =>
  let (result, state) := body state
  (bodyResult state.stack result, state)

/-- Runs a body and hands an error that it raises to a handler. Everything else passes. -/
@[always_inline, inline]
def rescuing (body : Run σ τ Exit Unit) (handler : ScriptError → Run σ τ Exit Unit) :
    Run σ τ Exit Unit := fun state =>
  match body state with
  | (.error (.halted (.raised error)), state) => handler error state
  | (result, state) => (result, state)

/-- Runs a body within a call. The frame is gone again however the body ends. -/
@[always_inline, inline]
def framed (frame : Frame) (body : Run σ τ Halt Value) : Run σ τ Halt Value := fun state =>
  match state with
  | ⟨space, stack, own, queue⟩ =>
    match stack.push frame with
    | .error error => (.error (.raised (error.locate frame.site)), ⟨space, stack, own, queue⟩)
    | .ok stack =>
      match body ⟨space, stack, own, queue⟩ with
      | (result, ⟨space, stack, own, queue⟩) => (result, ⟨space, stack.pop, own, queue⟩)

end Run

end ScriptEngine
