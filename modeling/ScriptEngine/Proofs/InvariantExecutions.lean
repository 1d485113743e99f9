import ScriptEngine.Proofs.PairedExecutions
import ScriptEngine.Proofs.InvariantTrees

set_option autoImplicit false

namespace ScriptEngine

/-- Hooks and writes uphold the law, and what is made of bodies, handlers and native functions does
if these do. A closure is admitted only if the law allows the context that it was written in. -/
structure Manner.Lawful {σ τ : Type} (law : Law σ) (manner : Manner σ τ) (host : Host σ τ) :
    Prop where
  hook : ∀ number write, Upholds law [] (Eval.consult host number write)
  write : ∀ place value site, Upholds law [] (manner.write place value site)
  finish : ∀ {known} {body : Run σ τ Exit Unit}, Upholds law known body →
    Upholds law known (manner.finish body)
  rescue : ∀ {known} {body : Run σ τ Exit Unit} {handler : ScriptError → Run σ τ Exit Unit},
    Upholds law known body → (∀ error, Upholds law known (handler error)) →
    Upholds law known (manner.rescue body handler)
  frame : ∀ {known} frame {body : Run σ τ Halt Value}, Upholds law known body →
    Upholds law known (manner.frame frame body)
  allow : ∀ {closure handle} {state : RunState σ τ}, law.kept state.space state.own →
    state.space.get? handle = some (.function closure) →
    law.Onward state (manner.allow closure state).2 ∧
      ∀ last, manner.allow closure state = (.ok (), last) →
        law.bases.parents last.space closure.context
  body : ∀ {env : Environment σ τ}, env.Lawful law → ∀ kind call,
    Upholds law [] (manner.body env kind call)

namespace Upholds

variable {σ τ : Type} {law : Law σ} {known : List ContextRef} {env : Environment σ τ}
  {manner : Manner σ τ} {host : Host σ τ} {state : RunState σ τ}

theorem notify (lawful : env.Lawful law) (data : Value) (site : SourceInfo)
    (callbacks : List Value) : Upholds law [] (Eval.notify env data site callbacks) := by
  induction callbacks with
  | nil => exact pure ()
  | cons callback rest ih =>
    exact (askSpace _).bind fun arity => (lawful.call _ _ _).bind fun _ => ih

theorem triggerEvent_run (lawful : env.Lawful law) (object : Value) (event : String)
    (data : Value) (site : SourceInfo) (kept : law.kept state.space state.own) :
    law.Onward state (Eval.triggerEvent env object event data site state).2 :=
  executing_run ((askSpace _).bind fun callbacks => notify lawful data site callbacks) kept nofun

theorem executeModule_run (lawful : env.Lawful law) {context : ContextRef} (program : Program)
    (kept : law.kept state.space state.own) (allowed : law.bases.parents state.space context) :
    law.Onward state (Eval.executeModule env context program state).2 := by
  refine executing_run (ofSpace_fork context _ fun inner => ?_) kept (by simpa using allowed)
  exact (lawful.finish (controls lawful inner _)).bind fun _ => pure _

section Follows

variable {site : SourceInfo}

theorem follow_write (lawful : env.Lawful law) (object : Value) (key : String) (value : Value)
    (place : SourceInfo) {next : Except ScriptError Unit → NativeCourse σ τ}
    (rest : ∀ result, Upholds law known (Eval.follow env site (next result))) :
    Upholds law known (Eval.follow env site (.write object key value place next)) :=
  answered (setProperty lawful.hook object key value place) rest

theorem follow_call (lawful : env.Lawful law) (callee : Value) (arguments : List Value)
    {next : Except ScriptError Value → NativeCourse σ τ}
    (rest : ∀ result, Upholds law known (Eval.follow env site (next result))) :
    Upholds law known (Eval.follow env site (.call callee arguments next)) :=
  answered (lawful.call callee arguments site).weaken rest

theorem follow_trigger (lawful : env.Lawful law) (object : Value) (event : String) (data : Value)
    {next : Except ScriptError Unit → NativeCourse σ τ}
    (rest : ∀ result, Upholds law known (Eval.follow env site (next result))) :
    Upholds law known (Eval.follow env site (.trigger object event data next)) :=
  answered (fun _ ready => triggerEvent_run lawful object event data site ready.kept) rest

theorem follow_execute (lawful : env.Lawful law) (context : ContextRef) (program : Program)
    {next : Except ScriptError (Value × ContextRef) → NativeCourse σ τ}
    (allowed : ∀ state : RunState σ τ, law.Ready known state →
      law.bases.parents state.space context)
    (rest : ∀ result, Upholds law known (Eval.follow env site (next result))) :
    Upholds law known (Eval.follow env site (.execute context program next)) :=
  answered (fun state ready => executeModule_run lawful program ready.kept (allowed state ready))
    rest

end Follows

private theorem callFunction (lawful : manner.Lawful law host) (calls : env.Lawful law)
    (closure : Closure) (arguments : List Value) (site : SourceInfo) :
    Upholds law [closure.context] (Eval.callFunctionBy manner env closure arguments site) := by
  unfold Eval.callFunctionBy
  split
  · refine lawful.frame _ (calls.finish (onSpace_fork closure.context site fun inner => ?_))
    exact (onSpace (Eval.moves_bindArguments _ _)).bind fun _ => controls calls inner _
  · exact raise _

private theorem callNative (lawful : manner.Lawful law host) (calls : env.Lawful law)
    (callee : NativeFunction) (arguments : List Value) (site : SourceInfo) :
    Upholds law [] (Eval.callNativeBy manner env callee arguments site) := by
  unfold Eval.callNativeBy
  split
  · have body := lawful.body calls callee.body ⟨callee.name, arguments, callee.captures, site⟩
    exact lawful.frame _ fun state ready => body state ready
  · exact raise _

private theorem invoke_run (lawful : manner.Lawful law host) (calls : env.Lawful law)
    (callee : Value) (arguments : List Value) (site : SourceInfo)
    (kept : law.kept state.space state.own) :
    law.Onward state (Eval.invokeBy manner env callee arguments site state).2 := by
  cases callee with
  | undefined | null | bool | int | float | string | array | object =>
    exact ⟨kept, id, Nat.le_refl _⟩
  | callable handle =>
    refine callTarget_run kept (fun closure held => ?_) fun callee => ?_
    · obtain ⟨begun, admitted⟩ := lawful.allow kept held
      dsimp only
      rw [Act.bind_apply]
      generalize manner.allow closure state = ended at begun admitted
      obtain ⟨halt | _, middle⟩ := ended
      · exact begun
      · exact begun.trans <| executing_run (callFunction lawful calls closure arguments site)
          begun.kept (by simpa using admitted middle rfl)
    · exact executing_run (callNative lawful calls callee arguments site) kept nofun

/-- Whatever the fuel, all that is done by a lawful manner is lawful. -/
theorem environmentBy (lawful : manner.Lawful law host) (classes : ClassRegistry) (fuel : Nat) :
    (Eval.environmentBy manner host classes fuel).Lawful law := by
  induction fuel with
  | zero =>
    exact ⟨lawful.hook, lawful.write, lawful.finish, lawful.rescue, fun _ _ _ => throw _⟩
  | succ fuel ih =>
    refine ⟨lawful.hook, lawful.write, lawful.finish, lawful.rescue, fun _ _ _ _ ready => ?_⟩
    exact invoke_run lawful ih _ _ _ ready.kept

/-- An execution upholds the law wherever it begins. -/
theorem executionBy (lawful : manner.Lawful law host) (classes : ClassRegistry) (fuel : Nat)
    {α : Type} (execution : Execution α) (kept : law.kept state.space state.own)
    (allowed : ∀ base, execution.base? = some base → law.bases.parents state.space base) :
    law.Onward state (execution.runBy manner host classes fuel state).2 := by
  have calls := environmentBy lawful classes
  cases execution with
  | executeModule context program =>
    exact executeModule_run (calls fuel) program kept (allowed _ rfl)
  | triggerEvent object event data site =>
    exact triggerEvent_run (calls fuel) object event data site kept
  | call callee arguments site =>
    cases fuel with
    | zero => exact ⟨kept, id, Nat.le_refl _⟩
    | succ fuel => exact invoke_run lawful (calls fuel) _ _ _ kept

end Upholds

end ScriptEngine
