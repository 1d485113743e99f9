import ScriptEngine.Proofs.Unwinding
import ScriptEngine.Tree.Build

set_option autoImplicit false

namespace ScriptEngine

section Calls

variable {σ τ : Type}

namespace CallTarget

def name : CallTarget → String
  | .function closure => closure.displayName
  | .native callee => callee.name

def arity? : CallTarget → Option Nat
  | .function closure => some closure.parameters.length
  | .native callee => callee.arity

def accepts (target : CallTarget) (count : Nat) : Bool := target.arity?.all (· == count)

/-- The body of what is called, up to where its error would get the active calls. -/
def body (env : Environment σ τ) (arguments : List Value) (site : SourceInfo) :
    CallTarget → Run σ τ Halt Value
  | .function closure => fun state =>
    let whole : Run σ τ Exit Unit := do
      let inner ← Eval.onSpace (Space.fork closure.context site)
      Eval.onSpace (Eval.bindArguments inner (closure.parameters.zip arguments))
      Eval.controls env inner closure.body.body.controls
    (Run.bodyResult (.empty none) (whole state).1, (whole state).2)
  | .native callee => fun state =>
    let course := env.host.course callee.body ⟨callee.name, arguments, callee.captures, site⟩
    let whole := Eval.follow env site course
    (Eval.nativeResult (.empty none) site (whole state).1, (whole state).2)

end CallTarget

/-- Gives the error of a body the calls that are active at its end. -/
def Run.attaching (body : Run σ τ Halt Value) : Run σ τ Halt Value := fun state =>
  ((body state).1.mapError (Run.attached (body state).2.stack), (body state).2)

/-- Runs the body of what is called within a frame, unless the number of arguments is wrong. -/
def Eval.enter (env : Environment σ τ) (target : CallTarget) (arguments : List Value)
    (site : SourceInfo) : Run σ τ Halt Value :=
  if target.accepts arguments.length then
    Run.framed ⟨target.name, site⟩ (Run.attaching (target.body env arguments site))
  else
    Run.raise <| ScriptError.locate
      (.ofKind (.arityMismatch target.name (target.arity?.getD 0) arguments.length)) site

theorem Eval.callFunction_eq_enter {env : Environment σ τ} (finish : env.finish = Run.finishing)
    (closure : Closure) (arguments : List Value) (site : SourceInfo) :
    Eval.callFunction env closure arguments site =
      Eval.enter env (.function closure) arguments site := by
  have counted : (CallTarget.function closure).accepts arguments.length = true ↔
      arguments.length = closure.parameters.length := by
    simp only [CallTarget.accepts, CallTarget.arity?, Option.all_some, beq_iff_eq]
    exact eq_comm
  unfold callFunction enter
  by_cases fits : arguments.length = closure.parameters.length
  · rw [if_pos fits, if_pos (counted.mpr fits), finish]
    refine congrArg (Run.framed _) (funext fun state => ?_)
    exact Prod.ext (Run.bodyResult_eq _ _) rfl
  · rw [if_neg fits, if_neg fun accepted => fits (counted.mp accepted)]
    rfl

theorem Eval.callNative_eq_enter (env : Environment σ τ) (callee : NativeFunction)
    (arguments : List Value) (site : SourceInfo) :
    Eval.callNative env callee arguments site =
      Eval.enter env (.native callee) arguments site := by
  unfold callNative enter
  by_cases fits : callee.arity.all (· == arguments.length) = true
  · rw [if_pos fits, if_pos (show (CallTarget.native callee).accepts _ = true from fits)]
    refine congrArg (Run.framed _) (funext fun state => ?_)
    exact Prod.ext (Eval.nativeResult_eq _ _ _) rfl
  · rw [if_neg fits, if_neg (show ¬ (CallTarget.native callee).accepts _ = true from fits)]
    rfl

theorem Eval.invoke_eq_enter {env : Environment σ τ} (finish : env.finish = Run.finishing)
    (handle : Handle) (arguments : List Value) (site : SourceInfo) :
    Eval.invoke env (.callable handle) arguments site = (do
      let target ← Run.askSpace (·.callTarget handle)
      Run.executing (Eval.enter env target arguments site)) := by
  refine congrArg (Run.askSpace _ >>= ·) (funext fun target => ?_)
  cases target with
  | function closure => simp only [Eval.callFunction_eq_enter finish]
  | native callee => simp only [Eval.callNative_eq_enter]

/-- Why a call is turned away before it has a frame: the value cannot be called, the number of
arguments is wrong, or as many calls are active as may be. -/
inductive Rejected (state : RunState σ τ) : Value → List Value → ErrorKind → Prop where
  | notCallable {callee : Value} (other : ∀ handle, callee ≠ .callable handle)
      (arguments : List Value) : Rejected state callee arguments (.notCallable callee.typeName)
  | miscounted {handle : Handle} {target : CallTarget} {arguments : List Value}
      (found : state.space.callTarget handle = .ok target)
      (wrong : target.accepts arguments.length = false) :
      Rejected state (.callable handle) arguments
        (.arityMismatch target.name (target.arity?.getD 0) arguments.length)
  | tooDeep {handle : Handle} {target : CallTarget} {arguments : List Value} {limit : Nat}
      (found : state.space.callTarget handle = .ok target)
      (limited : state.stack.limit = some limit) (full : limit ≤ state.stack.depth) :
      Rejected state (.callable handle) arguments (.stackOverflow limit)

theorem CallStack.push_refused {stack : CallStack} {frame : Frame} {error : ScriptError}
    (refused : stack.push frame = .error error) :
    ∃ limit, stack.limit = some limit ∧ limit ≤ stack.depth ∧
      error = .ofKind (.stackOverflow limit) := by
  unfold push at refused
  split at refused
  · rename_i limit limited
    split at refused
    · rename_i full
      cases refused
      exact ⟨limit, limited, full, rfl⟩
    · cases refused
  · cases refused

theorem CallStack.frames_of_push {stack pushed : CallStack} {frame : Frame}
    (entered : stack.push frame = .ok pushed) : pushed.frames = frame :: stack.frames := by
  unfold push at entered
  split at entered
  · split at entered
    · cases entered
    · cases entered
      rfl
  · cases entered
    rfl

namespace Run

variable {state last : RunState σ τ} {error : ScriptError}

theorem executing_raised {α : Type} {body : Run σ τ Halt α}
    (ended : Run.executing body state = (.error (.raised error), last)) :
    ∃ final, body { state with space := state.space.enterExecution } =
      (.error (.raised error), final) := by
  simp only [Run.executing] at ended
  generalize body _ = outcome at ended
  rcases outcome with ⟨(arrived | fault | _) | value, final⟩
  all_goals cases ended
  exact ⟨final, rfl⟩

theorem framed_raised {frame : Frame} {body : Run σ τ Halt Value}
    (ended : Run.framed frame body state = (.error (.raised error), last)) :
    (∃ limit, state.stack.limit = some limit ∧ limit ≤ state.stack.depth ∧
      error = (ScriptError.ofKind (.stackOverflow limit)).locate frame.site) ∨
    ∃ pushed final, state.stack.push frame = .ok pushed ∧
      body { state with stack := pushed } = (.error (.raised error), final) := by
  simp only [Run.framed] at ended
  cases entered : state.stack.push frame with
  | ok pushed =>
    rw [entered] at ended
    dsimp only at ended
    generalize inside : body _ = outcome at ended
    obtain ⟨result, final⟩ := outcome
    cases ended
    exact Or.inr ⟨pushed, final, rfl, inside⟩
  | error refused =>
    rw [entered] at ended
    cases ended
    obtain ⟨limit, limited, full, rfl⟩ := CallStack.push_refused entered
    exact Or.inl ⟨limit, limited, full, rfl⟩

theorem attaching_raised {body : Run σ τ Halt Value}
    (ended : Run.attaching body state = (.error (.raised error), last)) :
    ∃ arrived, body state = (.error (.raised arrived), last) ∧
      error = last.stack.attach arrived := by
  simp only [Run.attaching] at ended
  generalize body state = outcome at ended
  rcases outcome with ⟨(arrived | fault | _) | value, final⟩
  all_goals cases ended
  exact ⟨arrived, rfl, rfl⟩

end Run

theorem Unwinds.body {env : Environment σ τ} (sober : env.Sober) (target : CallTarget)
    (arguments : List Value) (site : SourceInfo) :
    Unwinds env (target.body env arguments site) := by
  cases target with
  | function closure =>
    intro state
    have whole : Unwinds env (do
        let inner ← Eval.onSpace (Space.fork closure.context site)
        Eval.onSpace (Eval.bindArguments inner (closure.parameters.zip arguments))
        Eval.controls env inner closure.body.body.controls) :=
      (onSpace _).bind fun inner => (onSpace _).bind fun _ => controls sober inner _
    exact ⟨(whole state).1, (whole state).2.bodyResult⟩
  | native callee =>
    intro state
    have candid := sober.candid.course callee.body ⟨callee.name, arguments, callee.captures, site⟩
    have whole := follow sober site _ candid state nofun
    exact ⟨whole.1, whole.2.nativeResult site⟩

/-- The call gets as far as its body, which is run with these calls active and ends with the
error. -/
structure BodyRaises (env : Environment σ τ) (callee : Value) (arguments : List Value)
    (site : SourceInfo) (state : RunState σ τ) (target : CallTarget) (pushed : CallStack)
    (arrived : ScriptError) : Prop where
  found : ∃ handle, callee = .callable handle ∧ state.space.callTarget handle = .ok target
  entered : state.stack.push ⟨target.name, site⟩ = .ok pushed
  ended : (target.body env arguments site
    { state with space := state.space.enterExecution, stack := pushed }).1 =
      .error (.raised arrived)

/-- What becomes of an error that leaves a call: the call was turned away, or its body has ended
with the error, which then got the active calls unless it had a backtrace. -/
theorem Eval.invoke_raised {env : Environment σ τ} (sober : env.Sober) {callee : Value}
    {arguments : List Value} {site : SourceInfo} {state last : RunState σ τ} {error : ScriptError}
    (ended : Eval.invoke env callee arguments site state = (.error (.raised error), last)) :
    (error.backtrace = none ∧ Rejected state callee arguments error.kind) ∨
    ∃ target pushed arrived, BodyRaises env callee arguments site state target pushed arrived ∧
      Known env pushed arrived ∧ error = pushed.attach arrived := by
  cases callee with
  | callable handle =>
    rw [Eval.invoke_eq_enter sober.finish] at ended
    simp only [Act.bind_apply, Run.askSpace] at ended
    cases found : state.space.callTarget handle with
    | error fault =>
      rw [found] at ended
      cases ended
    | ok target =>
      rw [found] at ended
      obtain ⟨final, within⟩ := Run.executing_raised ended
      unfold Eval.enter at within
      split at within
      · rcases Run.framed_raised within with
          ⟨limit, limited, full, rfl⟩ | ⟨pushed, inside, entered, attached⟩
        · refine Or.inl ⟨ScriptError.backtrace_locate _ _, ?_⟩
          rw [ScriptError.kind_locate]
          exact .tooDeep found limited full
        · obtain ⟨arrived, finished, rfl⟩ := Run.attaching_raised attached
          obtain ⟨steady, raises⟩ : UnwindsAt env pushed
              ((.error (.raised arrived), inside) : Except Halt Value × RunState σ τ) := by
            rw [← finished]
            exact Unwinds.body sober target arguments site _
          refine Or.inr ⟨target, pushed, arrived, ⟨⟨handle, rfl, found⟩, entered, ?_⟩,
            raises arrived rfl, congrArg (CallStack.attach · arrived) steady⟩
          exact congrArg Prod.fst finished
      · rename_i wrong
        cases within
        refine Or.inl ⟨ScriptError.backtrace_locate _ _, ?_⟩
        rw [ScriptError.kind_locate]
        exact .miscounted found (by simpa using wrong)
  | undefined | null | bool | int | float | string | array | object =>
    cases ended
    refine Or.inl ⟨ScriptError.backtrace_locate _ _, ?_⟩
    rw [ScriptError.kind_locate]
    refine .notCallable (fun handle same => ?_) arguments
    cases same

end Calls

/-- If a call ends with an error, then it was turned away before it had a frame, and the error has
no backtrace; or the error has one that goes down to the caller, with the frame of this call right
above the calls of the caller. In that case the body of the call has ended with the error: if it
came without a backtrace it got the active calls, and else it kept what it had from inside. -/
theorem backtraces_list_active_calls {σ τ : Type} {host : Host σ τ} (candid : host.Candid)
    (classes : ClassRegistry) (fuel : Nat) (callee : Value) (arguments : List Value)
    (site : SourceInfo) (state last : RunState σ τ) (error : ScriptError)
    (ended : Eval.call host classes fuel callee arguments site state =
      (.error (.raised error), last)) :
    (error.backtrace = none ∧ Rejected state callee arguments error.kind) ∨
    ∃ depth target pushed arrived frames, fuel = depth + 1 ∧
      BodyRaises (Eval.environment host classes depth) callee arguments site state target pushed
        arrived ∧
      error.backtrace = some ⟨frames ++ state.stack.frames⟩ ∧
      frames.getLast? = some ⟨target.name, site⟩ ∧
      (arrived.backtrace = none ∧ frames = [⟨target.name, site⟩] ∧ error.kind = arrived.kind ∨
        error = arrived ∧ Inherited (Eval.environment host classes depth) pushed error) := by
  induction fuel generalizing callee arguments site state last error with
  | zero => cases ended
  | succ fuel ih =>
    have sober := Eval.environment_sober candid classes fuel
    refine (Eval.invoke_raised sober ended).imp_right ?_
    rintro ⟨target, pushed, arrived, raises, known, rfl⟩
    have frames := CallStack.frames_of_push raises.entered
    have active : pushed.isEmpty = false := by simp [CallStack.isEmpty, frames]
    cases traced : arrived.backtrace with
    | none =>
      have given : pushed.attach arrived = arrived.withBacktrace pushed.capture := by
        simp [CallStack.attach, active, traced]
      rw [given]
      refine ⟨fuel, target, pushed, arrived, [⟨target.name, site⟩], rfl, raises, ?_, rfl,
        Or.inl ⟨traced, rfl, rfl⟩⟩
      simp [ScriptError.withBacktrace, CallStack.capture, frames]
    | some trace =>
      have kept : pushed.attach arrived = arrived := by simp [CallStack.attach, traced]
      rw [kept]
      have inherited := known.resolve_left (by simp [traced])
      -- The calls above this one are those of the call inside that the backtrace comes from.
      have above : ∃ above, arrived.backtrace = some ⟨above ++ pushed.frames⟩ := by
        cases inherited with
        | program _ _ _ _ captured => exact ⟨[], captured⟩
        | call same called _ inner =>
          rcases ih _ _ _ _ _ _ called with ⟨bare, -⟩ | ⟨_, _, _, _, above, _, _, lists, _⟩
          · simp [inner, bare] at traced
          · rw [same] at lists
            exact ⟨above, inner.trans lists⟩
      obtain ⟨above, lists⟩ := above
      refine ⟨fuel, target, pushed, arrived, above ++ [⟨target.name, site⟩], rfl, raises, ?_,
        List.getLast?_concat, Or.inr ⟨rfl, inherited⟩⟩
      simp [lists, frames]

/-- A host whose native functions call the function in the second slot. -/
private def relaying : Host Unit Empty where
  native _ _ := .call (.callable ⟨1, 0⟩) [] .finish
  hook _ _ write own := (.store write.value, own)

/-- The native function `relay` and a function `probe` that reads a name which nothing binds, with
one call active already. -/
private def relay : RunState Unit Empty :=
  let opened := ((SpaceAction.newGlobal "main.js" "" '/').run {}).2
  let body : Program := .mk .empty (.mk .empty [.statement .empty (.var "missing")])
  let probe := ((SpaceAction.allocateFunction ⟨⟨⟨0, 0⟩⟩, [], body, some "probe"⟩).run opened).2
  ⟨((SpaceAction.allocateNative ⟨"relay", some 0, [], .host 0⟩).run probe).2,
    ⟨[⟨"main", .empty⟩], some 8⟩, (), []⟩

private def relayed : Except Halt Value × RunState Unit Empty :=
  Eval.call relaying {} 3 (.callable ⟨2, 0⟩) [] (.point "main.js" 1 1) relay

/-- The error of the inner call has its backtrace when it leaves the outer one. -/
theorem backtrace_of_relay :
    ∃ error, relayed.1 = .error (.raised error) ∧
      error.backtrace = some ⟨[⟨"probe", .point "main.js" 1 1⟩, ⟨"relay", .point "main.js" 1 1⟩,
        ⟨"main", .empty⟩]⟩ ∧
      ∃ frames, error.backtrace = some ⟨frames ++ relay.stack.frames⟩ ∧
        frames.getLast? = some ⟨"relay", .point "main.js" 1 1⟩ := by
  have candid : relaying.Candid := by
    refine ⟨fun refused => ?_, fun _ _ result error member => Or.inr ?_⟩
    · cases refused
    · exact List.mem_append_left _ member
  refine ⟨_, rfl, rfl, ?_⟩
  rcases backtraces_list_active_calls candid {} 3 (.callable ⟨2, 0⟩) [] (.point "main.js" 1 1) relay
    relayed.2 _ rfl with ⟨bare, -⟩ | ⟨_, target, _, _, frames, _, raises, lists, own, _⟩
  · cases bare
  · obtain ⟨handle, same, found⟩ := raises.found
    cases same
    cases found
    exact ⟨frames, lists, own⟩

/-- A native body that calls `probe` on a stack of its own and hands its error on. -/
private def detached : Manner Unit Empty :=
  { Manner.plain relaying with
    body := fun env _ call state =>
      let (result, last) :=
        env.call (.callable ⟨1, 0⟩) [] call.site { state with stack := .empty none }
      (result, { last with stack := state.stack }) }

/-- A function that gives itself a name before it reads what nothing binds. -/
private def selfNaming : RunState Unit Empty :=
  let opened := ((SpaceAction.newGlobal "main.js" "" '/').run {}).2
  let body : Program := .ofControls
    [.ofExpression (.declare "probe" .mutable (.var "self")), .ofExpression (.var "missing")]
  let made := ((SpaceAction.allocateFunction ⟨⟨⟨0, 0⟩⟩, [], body, none⟩).run opened).2
  ⟨((SpaceAction.define ⟨⟨0, 0⟩⟩ "self" (.callable ⟨1, 0⟩) .mutable).run made).2,
    ⟨[⟨"main", .empty⟩], some 8⟩, (), []⟩

/-- The calls of the caller are missing from a backtrace if a native body hands on the error of a
call that it has made on another stack. And the frame of a call has the name that the callee had
when it was called, which need not be the one that it has when the error is raised. -/
theorem backtraces_have_exceptions :
    (∃ error, ((Execution.call (.callable ⟨2, 0⟩) [] (.point "main.js" 1 1)).runBy detached relaying
        {} 3 relay).1 = .error (.raised error) ∧
      error.backtrace = some ⟨[⟨"probe", .point "main.js" 1 1⟩]⟩ ∧
      ∀ frames, [⟨"probe", .point "main.js" 1 1⟩] ≠ frames ++ relay.stack.frames) ∧
    ∃ error last closure,
      Eval.call relaying {} 3 (.callable ⟨1, 0⟩) [] (.point "main.js" 1 1) selfNaming =
        (.error (.raised error), last) ∧
      error.backtrace = some ⟨[⟨"<anonymous>", .point "main.js" 1 1⟩, ⟨"main", .empty⟩]⟩ ∧
      last.space.get? ⟨1, 0⟩ = some (.function closure) ∧ closure.displayName = "probe" := by
  refine ⟨⟨_, rfl, rfl, fun frames same => ?_⟩, _, _, _, rfl, rfl, rfl, rfl⟩
  have last := congrArg List.getLast? same
  rw [show relay.stack.frames = [⟨"main", .empty⟩] from rfl, List.getLast?_concat] at last
  exact absurd (congrArg (Option.map Frame.name) last) (by decide)

end ScriptEngine
