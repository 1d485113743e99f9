import ScriptEngine.Eval.Node

set_option autoImplicit false

namespace ScriptEngine

namespace Eval

variable {σ τ : Type}

/-- Calls the listeners of an event one after the other, up to the first error. A listener without
parameters gets no argument. -/
def notify (env : Environment σ τ) (data : Value) (site : SourceInfo) :
    List Value → Run σ τ Halt Unit
  | [] => pure ()
  | callback :: rest => do
    let arity ← Run.askSpace (·.arity? callback)
    let _ ← env.call callback (if arity = some 0 then [] else [data]) site
    notify env data site rest

/-- Fires an event: the listeners that the object has at this moment are called. -/
def triggerEvent (env : Environment σ τ) (object : Value) (event : String) (data : Value)
    (site : SourceInfo) : Run σ τ Halt Unit :=
  Run.executing do
    let callbacks ← Run.askSpace (·.listeners object event)
    notify env data site callbacks

/-- Runs a program in a new context below `context`. The answer is the value that it returned and
the context that got its bindings. -/
def executeModule (env : Environment σ τ) (context : ContextRef) (program : Program) :
    Run σ τ Halt (Value × ContextRef) :=
  Run.executing do
    let inner ← Run.ofSpace (Space.fork context program.site)
    let value ← env.finish (controls env inner program.body.controls)
    pure (value, inner)

/-- The error that a run raised, as an answer. Faults and a lack of fuel go on. -/
def answered {α β : Type} (first : Run σ τ Halt α)
    (next : Except ScriptError α → Run σ τ Halt β) : Run σ τ Halt β := fun state =>
  match first state with
  | (.ok value, state) => next (.ok value) state
  | (.error (.raised error), state) => next (.error error) state
  | (.error halt, state) => (.error halt, state)

def follow (env : Environment σ τ) (site : SourceInfo) : NativeCourse σ τ → Run σ τ Halt Value
  | .finish result => Run.orRaise result
  | .abort fault => throw (.fault fault)
  | .look next => fun state =>
    follow env site (next ⟨state.space, env.classes, state.stack, state.own, state.queue⟩) state
  | .act action next => do
    let answer ← Run.ofSpace action.run
    follow env site (next answer)
  | .write object key value place next =>
    answered (setProperty env.host object key value place) fun result =>
      follow env site (next result)
  | .change update next => fun state =>
    follow env site next { state with own := update state.own }
  | .queue task next => fun state =>
    follow env site next { state with queue := state.queue ++ [task] }
  | .call callee arguments next =>
    answered (env.call callee arguments site) fun result => follow env site (next result)
  | .trigger object event data next =>
    answered (triggerEvent env object event data site) fun result =>
      follow env site (next result)
  | .execute context program next =>
    answered (executeModule env context program) fun result => follow env site (next result)

def bindArguments (context : ContextRef) : List (String × Value) → SpaceM Unit
  | [] => pure ()
  | (name, value) :: rest => do
    Space.define context name value .mutable
    bindArguments context rest

/-- Calls a closure. The number of arguments is checked before anything else happens. -/
def callFunction (env : Environment σ τ) (closure : Closure) (arguments : List Value)
    (site : SourceInfo) : Run σ τ Halt Value :=
  if arguments.length = closure.parameters.length then
    Run.framed ⟨closure.displayName, site⟩ <| env.finish do
      let inner ← onSpace (Space.fork closure.context site)
      onSpace (bindArguments inner (closure.parameters.zip arguments))
      controls env inner closure.body.body.controls
  else
    Run.raise <| ScriptError.locate
      (.ofKind (.arityMismatch closure.displayName closure.parameters.length arguments.length)) site

/-- Gives an error that leaves a native body the place and the calls of its call. -/
def nativeResult (stack : CallStack) (site : SourceInfo) (result : Except Halt Value) :
    Except Halt Value :=
  result.mapError fun halt => Run.attached stack (halt.locate site)

def callNative (env : Environment σ τ) (callee : NativeFunction) (arguments : List Value)
    (site : SourceInfo) : Run σ τ Halt Value :=
  if callee.arity.all (· == arguments.length) then
    Run.framed ⟨callee.name, site⟩ fun state =>
      let course := env.host.course callee.body ⟨callee.name, arguments, callee.captures, site⟩
      let (result, state) := follow env site course state
      (nativeResult state.stack site result, state)
  else
    Run.raise <| ScriptError.locate
      (.ofKind (.arityMismatch callee.name (callee.arity.getD 0) arguments.length)) site

/-- One call, with the calls that it makes itself left to the environment. -/
def invoke (env : Environment σ τ) (callee : Value) (arguments : List Value) (site : SourceInfo) :
    Run σ τ Halt Value :=
  match callee with
  | .callable handle => do
    match ← Run.askSpace (·.callTarget handle) with
    | .function closure => Run.executing (callFunction env closure arguments site)
    | .native native => Run.executing (callNative env native arguments site)
  | other => Run.raise (ScriptError.locate (.ofKind (.notCallable other.typeName)) site)

/-- Calls a value. Each call inside has one unit of fuel less. -/
def call (host : Host σ τ) (classes : ClassRegistry) :
    Nat → Value → List Value → SourceInfo → Run σ τ Halt Value
  | 0 => fun _ _ _ => throw .outOfFuel
  | fuel + 1 =>
    invoke ⟨host, classes, writePlace host, Run.finishing, Run.rescuing, call host classes fuel,
      fuel⟩

/-- The environment in which nodes run with this much fuel. -/
def environment (host : Host σ τ) (classes : ClassRegistry) (fuel : Nat) : Environment σ τ :=
  ⟨host, classes, writePlace host, Run.finishing, Run.rescuing, call host classes fuel, fuel⟩

end Eval

end ScriptEngine
