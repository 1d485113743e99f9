import ScriptEngine.Proofs.PairedTrees

set_option autoImplicit false

namespace ScriptEngine

/-- What is executed from outside: a program, a call of a value, or an event. -/
inductive Execution : Type → Type where
  | executeModule (context : ContextRef) (program : Program) : Execution (Value × ContextRef)
  | call (callee : Value) (arguments : List Value) (site : SourceInfo) : Execution Value
  | triggerEvent (object : Value) (event : String) (data : Value) (site : SourceInfo) :
      Execution Unit

namespace Execution

def run {σ τ α : Type} (host : Host σ τ) (classes : ClassRegistry) (fuel : Nat) :
    Execution α → Run σ τ Halt α
  | .executeModule context program =>
    Eval.executeModule (Eval.environment host classes fuel) context program
  | .call callee arguments site => Eval.call host classes fuel callee arguments site
  | .triggerEvent object event data site =>
    Eval.triggerEvent (Eval.environment host classes fuel) object event data site

def base? {α : Type} : Execution α → Option ContextRef
  | .executeModule context _ => some context
  | .call _ _ _ | .triggerEvent _ _ _ _ => none

end Execution

/-- A way to go through executions: how places are written, bodies finished, errors caught and
bodies run within a frame, what comes before the call of a closure, and what the body of a native
function does in the environment of its call. -/
@[ext] structure Manner (σ τ : Type) : Type 1 where
  write : Place → Value → SourceInfo → Run σ τ Halt Unit
  finish : Run σ τ Exit Unit → Run σ τ Halt Value
  rescue : Run σ τ Exit Unit → (ScriptError → Run σ τ Exit Unit) → Run σ τ Exit Unit
  frame : Frame → Run σ τ Halt Value → Run σ τ Halt Value
  allow : Closure → Run σ τ Halt Unit
  body : Environment σ τ → NativeBody → NativeCall → Run σ τ Halt Value

/-- The manner of the evaluator. -/
def Manner.plain {σ τ : Type} (host : Host σ τ) : Manner σ τ where
  write := Eval.writePlace host
  finish := Run.finishing
  rescue := Run.rescuing
  frame := Run.framed
  allow _ := pure ()
  body env kind call := Eval.follow env call.site (host.course kind call)

section Manners

variable {σ τ : Type} (manner : Manner σ τ) (host : Host σ τ) (classes : ClassRegistry)

namespace Eval

def callFunctionBy (env : Environment σ τ) (closure : Closure) (arguments : List Value)
    (site : SourceInfo) : Run σ τ Halt Value :=
  if arguments.length = closure.parameters.length then
    manner.frame ⟨closure.displayName, site⟩ <| env.finish do
      let inner ← onSpace (Space.fork closure.context site)
      onSpace (bindArguments inner (closure.parameters.zip arguments))
      controls env inner closure.body.body.controls
  else
    Run.raise <| ScriptError.locate
      (.ofKind (.arityMismatch closure.displayName closure.parameters.length arguments.length)) site

def callNativeBy (env : Environment σ τ) (callee : NativeFunction) (arguments : List Value)
    (site : SourceInfo) : Run σ τ Halt Value :=
  if callee.arity.all (· == arguments.length) then
    manner.frame ⟨callee.name, site⟩ fun state =>
      let (result, state) :=
        manner.body env callee.body ⟨callee.name, arguments, callee.captures, site⟩ state
      (nativeResult state.stack site result, state)
  else
    Run.raise <| ScriptError.locate
      (.ofKind (.arityMismatch callee.name (callee.arity.getD 0) arguments.length)) site

def invokeBy (env : Environment σ τ) (callee : Value) (arguments : List Value)
    (site : SourceInfo) : Run σ τ Halt Value :=
  match callee with
  | .callable handle => do
    match ← Run.askSpace (·.callTarget handle) with
    | .function closure =>
      manner.allow closure
      Run.executing (callFunctionBy manner env closure arguments site)
    | .native native => Run.executing (callNativeBy manner env native arguments site)
  | other => Run.raise (ScriptError.locate (.ofKind (.notCallable other.typeName)) site)

def callBy : Nat → Value → List Value → SourceInfo → Run σ τ Halt Value
  | 0 => fun _ _ _ => throw .outOfFuel
  | fuel + 1 => invokeBy manner
    ⟨host, classes, manner.write, manner.finish, manner.rescue, callBy fuel, fuel⟩

def environmentBy (fuel : Nat) : Environment σ τ :=
  ⟨host, classes, manner.write, manner.finish, manner.rescue, callBy manner host classes fuel,
    fuel⟩

theorem callBy_plain (fuel : Nat) :
    callBy (.plain host) host classes fuel = call host classes fuel := by
  induction fuel with
  | zero => rfl
  | succ fuel ih =>
    rw [callBy, ih]
    rfl

theorem environmentBy_plain (fuel : Nat) :
    environmentBy (.plain host) host classes fuel = environment host classes fuel := by
  rw [environmentBy, callBy_plain, environment]
  rfl

end Eval

/-- An execution in a manner of its own. -/
def Execution.runBy {α : Type} (fuel : Nat) : Execution α → Run σ τ Halt α
  | .executeModule context program =>
    Eval.executeModule (Eval.environmentBy manner host classes fuel) context program
  | .call callee arguments site => Eval.callBy manner host classes fuel callee arguments site
  | .triggerEvent object event data site =>
    Eval.triggerEvent (Eval.environmentBy manner host classes fuel) object event data site

theorem Execution.runBy_plain {α : Type} (fuel : Nat) (execution : Execution α) :
    execution.runBy (.plain host) host classes fuel = execution.run host classes fuel := by
  cases execution with
  | executeModule | triggerEvent => simp only [runBy, run, Eval.environmentBy_plain]
  | call => simp only [runBy, run, Eval.callBy_plain]

end Manners

variable {σ τ σ' τ' : Type}

/-- Two environments in accord at every depth, whatever calls are active. -/
structure Environment.Paired (ties : CallStack → Ties σ τ σ' τ') (env : Environment σ τ)
    (env' : Environment σ' τ') : Prop where
  classes : env.classes = env'.classes
  accords : ∀ stack depth, env.Accords (ties stack) (depth + 1) env'

/-- Two manners in accord. The body of a call may rely on nothing but the calls that are active
inside, and a native body on it that the calls it makes are in accord. -/
structure Manner.Accords (ties : CallStack → Ties σ τ σ' τ') (manner : Manner σ τ)
    (host : Host σ τ) (manner' : Manner σ' τ') (host' : Host σ' τ') : Prop where
  hook : ∀ stack depth number write, Accord (ties stack) (depth + 1)
    (Eval.consult host number write) (Eval.consult host' number write)
  write : ∀ stack depth place value site, Accord (ties stack) (depth + 1)
    (manner.write place value site) (manner'.write place value site)
  finish : ∀ {stack depth} {first : Run σ τ Exit Unit} {second : Run σ' τ' Exit Unit},
    Accord (ties stack) (depth + 1) first second →
    Accord (ties stack) (depth + 1) (manner.finish first) (manner'.finish second)
  rescue : ∀ {stack depth} {first : Run σ τ Exit Unit} {second : Run σ' τ' Exit Unit}
    {handler : ScriptError → Run σ τ Exit Unit} {handler' : ScriptError → Run σ' τ' Exit Unit},
    Accord (ties stack) (depth + 1) first second →
    (∀ error, Accord (ties stack) (depth + 1) (handler error) (handler' error)) →
    Accord (ties stack) (depth + 1) (manner.rescue first handler) (manner'.rescue second handler')
  frame : ∀ stack depth frame {first : Run σ τ Halt Value} {second : Run σ' τ' Halt Value},
    (∀ inner, Accord (ties inner) (depth + 1) first second) →
    Accord (ties stack) (depth + 1) (manner.frame frame first) (manner'.frame frame second)
  allow : ∀ stack depth closure,
    Accord (ties stack) depth (manner.allow closure) (manner'.allow closure)
  body : ∀ {env : Environment σ τ} {env' : Environment σ' τ'}, env.Paired ties env' →
    ∀ stack depth kind call, Accord (ties stack) (depth + 1) (manner.body env kind call)
      (manner'.body env' kind call)

namespace Accord

section Nodes

variable {ties : Ties σ τ σ' τ'} {depth : Nat} {env : Environment σ τ} {env' : Environment σ' τ'}

theorem notify (accords : env.Accords ties depth env') (data : Value) (site : SourceInfo)
    (callbacks : List Value) :
    Accord ties depth (Eval.notify env data site callbacks)
      (Eval.notify env' data site callbacks) := by
  induction callbacks with
  | nil => exact pure ()
  | cons callback rest ih =>
    exact (askSpace _).bind fun arity => (accords.call _ _ _).bind fun _ => ih

theorem triggerEvent (accords : env.Accords ties (depth + 1) env') (object : Value)
    (event : String) (data : Value) (site : SourceInfo) :
    Accord ties depth (Eval.triggerEvent env object event data site)
      (Eval.triggerEvent env' object event data site) :=
  executing ((askSpace _).bind fun callbacks => notify accords data site callbacks)

theorem executeModule (accords : env.Accords ties (depth + 1) env') (context : ContextRef)
    (program : Program) :
    Accord ties depth (Eval.executeModule env context program)
      (Eval.executeModule env' context program) :=
  executing ((ofSpace (Space.edits_fork _ _)).bind fun inner =>
    (accords.finish (controls accords inner _)).bind fun _ => pure _)

end Nodes

private theorem nativeResult {ties : Ties σ τ σ' τ'} {depth : Nat} {first : Run σ τ Halt Value}
    {second : Run σ' τ' Halt Value} (both : Accord ties depth first second) (site : SourceInfo) :
    Accord ties depth
      (fun state =>
        let (result, state) := first state
        (Eval.nativeResult state.stack site result, state))
      (fun state =>
        let (result, state) := second state
        (Eval.nativeResult state.stack site result, state)) := by
  intro left right states
  have outcome := both left right states
  dsimp only
  generalize first left = ended at outcome
  generalize second right = ended' at outcome
  cases outcome with
  | broken isFault torn =>
    obtain ⟨fault, rfl⟩ := isFault
    exact .broken ⟨fault, rfl⟩ torn
  | whole result states' =>
    rw [ties.stack_eq states']
    exact .whole _ states'

section Calls

variable {ties : CallStack → Ties σ τ σ' τ'} {manner : Manner σ τ} {manner' : Manner σ' τ'}
  {host : Host σ τ} {host' : Host σ' τ'} {env : Environment σ τ} {env' : Environment σ' τ'}
  {stack : CallStack} {depth : Nat}

private theorem callFunction (manners : manner.Accords ties host manner' host')
    (paired : env.Paired ties env') (closure : Closure) (arguments : List Value)
    (site : SourceInfo) :
    Accord (ties stack) (depth + 1) (Eval.callFunctionBy manner env closure arguments site)
      (Eval.callFunctionBy manner' env' closure arguments site) := by
  unfold Eval.callFunctionBy
  split
  · refine manners.frame _ _ _ fun entered => (paired.accords entered depth).finish ?_
    refine (onSpace (Space.edits_fork _ _)).bind fun inner => ?_
    refine (onSpace (Eval.edits_bindArguments _ _)).bind fun _ => ?_
    exact controls (paired.accords entered depth) inner _
  · exact raise _

private theorem callNative (manners : manner.Accords ties host manner' host')
    (paired : env.Paired ties env') (callee : NativeFunction) (arguments : List Value)
    (site : SourceInfo) :
    Accord (ties stack) (depth + 1) (Eval.callNativeBy manner env callee arguments site)
      (Eval.callNativeBy manner' env' callee arguments site) := by
  unfold Eval.callNativeBy
  split
  · exact manners.frame _ _ _ fun entered =>
      nativeResult (manners.body paired entered depth _ _) site
  · exact raise _

private theorem invoke (stack : CallStack) (manners : manner.Accords ties host manner' host')
    (paired : env.Paired ties env') (callee : Value) (arguments : List Value)
    (site : SourceInfo) :
    Accord (ties stack) depth (Eval.invokeBy manner env callee arguments site)
      (Eval.invokeBy manner' env' callee arguments site) := by
  cases callee with
  | undefined | null | bool | int | float | string | array | object => exact raise _
  | callable handle =>
    refine (askSpace _).bind fun target => ?_
    cases target with
    | function closure =>
      exact (manners.allow stack depth closure).bind fun _ =>
        executing (callFunction manners paired closure arguments site)
    | native callee => exact executing (callNative manners paired callee arguments site)

/-- Whatever the fuel, the environments of two manners in accord are in accord. -/
theorem environmentBy (manners : manner.Accords ties host manner' host')
    (classes : ClassRegistry) (fuel : Nat) :
    (Eval.environmentBy manner host classes fuel).Paired ties
      (Eval.environmentBy manner' host' classes fuel) := by
  -- On the fuel: one call more is in accord at every depth because the calls inside it are.
  induction fuel with
  | zero =>
    refine ⟨rfl, fun stack depth => ⟨rfl, manners.hook stack depth, manners.write stack depth,
      manners.finish, manners.rescue, fun _ _ _ => ?_⟩⟩
    exact throw _
  | succ fuel ih =>
    refine ⟨rfl, fun stack depth => ⟨rfl, manners.hook stack depth, manners.write stack depth,
      manners.finish, manners.rescue, fun _ _ _ => ?_⟩⟩
    exact invoke stack manners ih _ _ _

/-- Two manners in accord make the same of every execution. -/
theorem executionBy (manners : manner.Accords ties host manner' host') (stack : CallStack)
    (classes : ClassRegistry) (fuel : Nat) {α : Type} (execution : Execution α) :
    Accord (ties stack) depth (execution.runBy manner host classes fuel)
      (execution.runBy manner' host' classes fuel) := by
  have paired := environmentBy manners classes
  cases execution with
  | executeModule context program =>
    exact executeModule ((paired fuel).accords stack depth) _ _
  | triggerEvent object event data site =>
    exact triggerEvent ((paired fuel).accords stack depth) _ _ _ _
  | call callee arguments site =>
    cases fuel with
    | zero => exact throw _
    | succ fuel => exact invoke stack manners (paired fuel) _ _ _

end Calls

end Accord

end ScriptEngine
