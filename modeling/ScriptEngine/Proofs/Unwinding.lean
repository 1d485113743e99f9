import ScriptEngine.Proofs.ErrorOrigins
import ScriptEngine.Proofs.PermittedRuns
import ScriptEngine.Proofs.Steadiness

set_option autoImplicit false

namespace ScriptEngine

/-- The error that stands in place of a value, if one does. -/
def failures {α : Type} : Except ScriptError α → List ScriptError
  | .ok _ => []
  | .error error => [error]

section Candid

variable {σ τ : Type}

/-- Whatever the course of a native body sees and is answered, an error that it ends with has no
backtrace or is one of those that its own calls have ended with. -/
def NativeCourse.Candid : NativeCourse σ τ → List ScriptError → Prop
  | .finish result, made => ∀ error ∈ failures result, error.backtrace = none ∨ error ∈ made
  | .abort _, _ => True
  | .look next, made => ∀ view, (next view).Candid made
  | .act _ next, made => ∀ answer, (next answer).Candid made
  | .write _ _ _ _ next, made =>
    ∀ result, (∀ error ∈ failures result, error.backtrace = none) → (next result).Candid made
  | .change _ next, made => next.Candid made
  | .queue _ next, made => next.Candid made
  | .call _ _ next, made => ∀ result, (next result).Candid (failures result ++ made)
  | .trigger _ _ _ next, made => ∀ result, (next result).Candid (failures result ++ made)
  | .execute _ _ next, made => ∀ result, (next result).Candid (failures result ++ made)

/-- Hooks refuse writes with errors that have no backtrace, and native bodies end with none but
those of their own calls. -/
structure Host.Candid (host : Host σ τ) : Prop where
  hook : ∀ {number space write own error},
    (host.hook number space write own).1 = .reject error → error.backtrace = none
  native : ∀ number call, (host.native number call).Candid []

namespace NativeCourse

variable {made : List ScriptError}

theorem candid_fail {error : ScriptError} (bare : error.backtrace = none) :
    (fail error : NativeCourse σ τ).Candid made := by
  intro other member
  obtain rfl := List.mem_singleton.mp member
  exact Or.inl bare

theorem candid_succeed (value : Value) : (succeed value : NativeCourse σ τ).Candid made := nofun

theorem candid_orFail {α : Type} {result : Except ScriptError α} {next : α → NativeCourse σ τ}
    (bare : ∀ error, result = .error error → error.backtrace = none ∨ error ∈ made)
    (rest : ∀ value, (next value).Candid made) : (orFail result next).Candid made := by
  cases result with
  | ok value => exact rest value
  | error error =>
    intro other member
    obtain rfl := List.mem_singleton.mp member
    exact bare _ rfl

theorem candid_orAbort {α : Type} {result : Except Fault α} {next : α → NativeCourse σ τ}
    (rest : ∀ value, (next value).Candid made) : (orAbort result next).Candid made := by
  cases result with
  | ok value => exact rest value
  | error fault => trivial

theorem bare_expectString {value : Value} {error : ScriptError}
    (failed : expectString value = .error error) : error.backtrace = none := by
  cases value <;> cases failed <;> rfl

theorem candid_subscribe (call : NativeCall) :
    (subscribe call : NativeCourse σ τ).Candid made := by
  unfold subscribe
  split
  · refine candid_orFail (fun error failed => Or.inl (bare_expectString failed)) fun event => ?_
    split
    · exact candid_orAbort fun object _ => candid_succeed object
    · exact candid_fail rfl
  · exact candid_fail rfl

theorem candid_unsubscribe (call : NativeCall) :
    (unsubscribe call : NativeCourse σ τ).Candid made := by
  unfold unsubscribe
  split
  · refine candid_orFail (fun error failed => Or.inl (bare_expectString failed)) fun event => ?_
    exact candid_orAbort fun object _ => candid_succeed object
  · exact candid_fail rfl

theorem candid_dispatch (call : NativeCall) :
    (dispatch call : NativeCourse σ τ).Candid made := by
  unfold dispatch
  split
  · refine candid_orFail (fun error failed => Or.inl (bare_expectString failed)) fun event => ?_
    refine candid_orAbort fun object result => ?_
    refine candid_orFail (fun error failed => Or.inr ?_) fun _ => candid_succeed _
    subst failed
    exact List.mem_append_left _ (List.mem_singleton_self _)
  · exact candid_fail rfl

end NativeCourse

theorem Host.Candid.course {host : Host σ τ} (candid : host.Candid) (body : NativeBody)
    (call : NativeCall) : (host.course body call).Candid [] := by
  cases body with
  | subscribe => exact NativeCourse.candid_subscribe call
  | unsubscribe => exact NativeCourse.candid_unsubscribe call
  | dispatch => exact NativeCourse.candid_dispatch call
  | host number => exact candid.native number call

end Candid

section Writes

variable {σ τ : Type} {host : Host σ τ}

/-- Errors without a backtrace. -/
def Bare (_ : RunState σ τ) (error : ScriptError) : Prop := error.backtrace = none

@[simp] theorem ScriptError.backtrace_locate (error : ScriptError) (site : SourceInfo) :
    (error.locate site).backtrace = error.backtrace := by
  unfold locate
  split <;> rfl

namespace Raises

theorem consult_bind {errors : RunState σ τ → ScriptError → Prop} {β : Type} {number : Nat}
    {write : HostWrite} {next : HookAnswer → Run σ τ Halt β}
    (after : ∀ space own, Raises errors (next (host.hook number space write own).1)) :
    Raises errors (Eval.consult host number write >>= next) :=
  fun state => after state.space state.own _

theorem setProperty (candid : host.Candid) (object : Value) (key : String) (value : Value)
    (site : SourceInfo) : Raises Bare (Eval.setProperty host object key value site) := by
  refine (askSpace _).bind fun handle => (askSpace _).bind fun wrap => ?_
  split
  · refine consult_bind fun space own => ?_
    cases answered : (host.hook _ space _ own).1 with
    | store stored => exact ofSpace _
    | absorb => exact pure _
    | reject error =>
      refine raise fun last => ?_
      exact (error.backtrace_locate site).trans (candid.hook answered)
    | abort fault => exact stop rfl
  · exact ofSpace _

theorem writePlace (candid : host.Candid) (place : Place) (value : Value) (site : SourceInfo) :
    Raises Bare (Eval.writePlace host place value site) := by
  cases place with
  | binding context name declared =>
    refine (ofSpace _).bind fun _ => (ofSpace _).bind fun assigned => ?_
    cases assigned with
    | stored => exact pure _
    | undefined => exact ofSpace _
    | immutable => exact raise fun last => rfl
  | property object key => exact (ofSpace _).bind fun _ => setProperty candid object key value site
  | element array index =>
    refine (askSpace _).bind fun items => ?_
    split
    · exact ofSpace _
    · exact raise fun last => rfl
  | range array lower upper =>
    cases value with
    | array source =>
      refine (askSpace _).bind fun replacement => (askSpace _).bind fun items => ?_
      split
      · exact ofSpace _
      · exact raise fun last => rfl
    | undefined | null | bool | int | float | string | object | callable =>
      exact raise fun last => rfl

end Raises

end Writes

theorem CallStack.attach_cases (stack : CallStack) (error : ScriptError) :
    stack.attach error = error ∨ error.backtrace = none ∧ stack.isEmpty = false ∧
      stack.attach error = error.withBacktrace stack.capture := by
  unfold attach
  cases kept : stack.isEmpty || error.backtrace.isSome with
  | true => exact Or.inl rfl
  | false =>
    obtain ⟨active, untraced⟩ := Bool.or_eq_false_iff.mp kept
    exact Or.inr ⟨by simpa using untraced, active, rfl⟩

section Bodies

variable {σ τ : Type}

/-- The error has no backtrace, or a call has ended in this state with an error of the same kind
that has the same one. -/
def CalledBack (env : Environment σ τ) (last : RunState σ τ) (error : ScriptError) : Prop :=
  error.backtrace = none ∨ ∃ value values site start inner,
    env.call value values site start = (.error (.raised inner), last) ∧
      error.kind = inner.kind ∧ error.backtrace = inner.backtrace

theorem Raises.calledBack {env : Environment σ τ} (caught : env.rescue = Run.rescuing)
    (writes : ∀ place value site, Raises Bare (env.write place value site)) (context : ContextRef)
    (trees : List Control) : Raises (CalledBack env) (Eval.controls env context trees) := by
  refine sequence context fun tree _ => Node.raises caught ?_ ?_ ?_ ?_ tree.node context
  · exact fun last kind => Or.inl rfl
  · rintro last error site (bare | ⟨value, values, place, start, inner, ended, kind, trace⟩)
    · exact Or.inl ((error.backtrace_locate site).trans bare)
    · exact Or.inr ⟨value, values, place, start, inner, ended, (error.kind_locate site).trans kind,
        (error.backtrace_locate site).trans trace⟩
  · refine fun value values site => of_ends fun start halt last error ended raised => ?_
    cases Halt.eq_of_error? raised
    exact Or.inr ⟨value, values, site, start, error, ended, rfl, rfl⟩
  · exact fun place value site => (writes place value site).mono Or.inl

/-- An error that has its backtrace from below a body which runs with these calls active: from a
call that is made, or from a program that is run. -/
inductive Inherited (env : Environment σ τ) (stack : CallStack) (error : ScriptError) : Prop where
  | call {value : Value} {values : List Value} {site : SourceInfo} {start last : RunState σ τ}
      {inner : ScriptError} (active : start.stack = stack)
      (ended : env.call value values site start = (.error (.raised inner), last))
      (kind : error.kind = inner.kind) (trace : error.backtrace = inner.backtrace)
  | program {context : ContextRef} {trees : List Control} {start : RunState σ τ}
      {bare : ScriptError} (active : start.stack = stack)
      (ended : Run.bodyResult (.empty none) (Eval.controls env context trees start).1 =
        .error (.raised bare))
      (untraced : bare.backtrace = none) (kind : error.kind = bare.kind)
      (trace : error.backtrace = some stack.capture)

/-- What is known of an error that leaves a body: if it has a backtrace, then from below. -/
def Known (env : Environment σ τ) (stack : CallStack) (error : ScriptError) : Prop :=
  error.backtrace = none ∨ Inherited env stack error

/-- The run has come to its end with the same calls active, and with a known error if with any. -/
def UnwindsAt {ε α : Type} [Raising ε] (env : Environment σ τ) (stack : CallStack)
    (ended : Except ε α × RunState σ τ) : Prop :=
  ended.2.stack = stack ∧ RaisesAt (fun _ => Known env stack) ended

/-- Where the host makes up no backtraces, an error that comes to the end of a body with one has it
from a call or a program inside, which had the same calls active as the body. -/
def Unwinds {ε α : Type} [Raising ε] (env : Environment σ τ) (run : Run σ τ ε α) : Prop :=
  ∀ state, UnwindsAt env state.stack (run state)

/-- Environments of candid hosts: calls and controls leave the active calls as they were, and writes
raise errors without a backtrace. -/
structure Environment.Sober (env : Environment σ τ) : Prop where
  finish : env.finish = Run.finishing
  rescue : env.rescue = Run.rescuing
  write : ∀ place value site, Raises Bare (env.write place value site)
  call : ∀ value values site, Steady (env.call value values site)
  controls : ∀ context trees, Steady (Eval.controls env context trees)
  candid : env.host.Candid

theorem Eval.environment_sober {host : Host σ τ} (candid : host.Candid) (classes : ClassRegistry)
    (fuel : Nat) : (Eval.environment host classes fuel).Sober where
  finish := rfl
  rescue := rfl
  write := Raises.writePlace candid
  call value values site := Steady.execution host classes fuel (.call value values site)
  controls := Steady.controls host classes fuel
  candid := candid

/-- A body that ends with the active calls attached to its error ends with an error to which no call
is attached yet. -/
theorem Run.bodyResult_eq (stack : CallStack) (result : Except Exit Unit) :
    Run.bodyResult stack result =
      (Run.bodyResult (.empty none) result).mapError (Run.attached stack) := by
  rcases result with (direction | value | halt) | _
  · cases direction <;> rfl
  · rfl
  · cases halt <;> rfl
  · rfl

theorem Eval.nativeResult_eq (stack : CallStack) (site : SourceInfo) (result : Except Halt Value) :
    Eval.nativeResult stack site result =
      (Eval.nativeResult (.empty none) site result).mapError (Run.attached stack) := by
  rcases result with (error | fault | _) | value <;> rfl

theorem Known.locate {env : Environment σ τ} {stack : CallStack} {error : ScriptError}
    (known : Known env stack error) (site : SourceInfo) : Known env stack (error.locate site) := by
  have trace := error.backtrace_locate site
  have kind := error.kind_locate site
  rcases known with bare | ⟨active, ended, kind', trace'⟩ | ⟨active, ended, bare, kind', trace'⟩
  · exact Or.inl (trace.trans bare)
  · exact Or.inr (.call active ended (kind.trans kind') (trace.trans trace'))
  · exact Or.inr (.program active ended bare (kind.trans kind') (trace.trans trace'))

theorem RaisesAt.bodyResult {env : Environment σ τ} {stack : CallStack}
    {ended : Except Exit Unit × RunState σ τ}
    (raises : RaisesAt (fun _ => Known env stack) ended) :
    RaisesAt (fun _ => Known env stack) (Run.bodyResult (.empty none) ended.1, ended.2) := by
  rcases ended with ⟨(direction | value | halt) | _, last⟩
  · cases direction <;> intro error same <;> cases same <;> exact Or.inl rfl
  · trivial
  · cases halt with
    | raised arrived => exact raises
    | fault | outOfFuel => exact .silent rfl
  · trivial

theorem RaisesAt.nativeResult {env : Environment σ τ} {stack : CallStack}
    {ended : Except Halt Value × RunState σ τ} (site : SourceInfo)
    (raises : RaisesAt (fun _ => Known env stack) ended) :
    RaisesAt (fun _ => Known env stack)
      (Eval.nativeResult (.empty none) site ended.1, ended.2) := by
  rcases ended with ⟨(arrived | fault | _) | value, last⟩
  · intro error same
    cases same
    exact (raises arrived rfl).locate site
  · exact .silent rfl
  · exact .silent rfl
  · trivial

namespace Unwinds

variable {ε α β : Type} {env : Environment σ τ} {state : RunState σ τ}

theorem of_steady [Raising ε] {run : Run σ τ ε α} (steady : Steady run)
    (known : ∀ state reason last error, run state = (.error reason, last) →
      Raising.error? reason = some error → Known env state.stack error) : Unwinds env run := by
  refine fun state => ⟨steady state, ?_⟩
  cases ended : run state with
  | mk result last =>
    cases result with
    | ok value => trivial
    | error reason => exact fun error raised => known state reason last error ended raised

theorem pure [Raising ε] (value : α) : Unwinds env (pure value : Run σ τ ε α) :=
  fun _ => ⟨rfl, trivial⟩

theorem bind_at [Raising ε] {first : Run σ τ ε α} {next : α → Run σ τ ε β}
    (before : Unwinds env first)
    (after : ∀ value last, last.stack = state.stack → UnwindsAt env state.stack (next value last)) :
    UnwindsAt env state.stack ((first >>= next) state) := by
  have outcome := before state
  rw [Act.bind_apply]
  generalize first state = ended at outcome
  rcases ended with ⟨reason | value, last⟩
  · exact outcome
  · exact after value last outcome.1

theorem bind [Raising ε] {first : Run σ τ ε α} {next : α → Run σ τ ε β}
    (before : Unwinds env first) (after : ∀ value, Unwinds env (next value)) :
    Unwinds env (first >>= next) := by
  refine fun state => bind_at before fun value last same => ?_
  rw [← same]
  exact after value last

theorem askSpace (question : Space → Except Fault α) :
    Unwinds env (Run.askSpace question : Run σ τ Halt α) :=
  fun state => ⟨rfl, (Raises.askSpace question : Raises _ (Run.askSpace question)) state⟩

theorem ofSpace (operation : SpaceM α) :
    Unwinds env (Run.ofSpace operation : Run σ τ Halt α) :=
  fun state => ⟨rfl, (Raises.ofSpace operation : Raises _ (Run.ofSpace operation)) state⟩

theorem onSpace (operation : SpaceM α) :
    Unwinds env (Eval.onSpace operation : Run σ τ Exit α) :=
  fun state => ⟨rfl, (Raises.onSpace operation : Raises _ (Eval.onSpace operation)) state⟩

theorem call (sober : env.Sober) (value : Value) (values : List Value) (site : SourceInfo) :
    Unwinds env (env.call value values site) := by
  refine of_steady (sober.call value values site) fun state halt last error ended raised => ?_
  cases Halt.eq_of_error? raised
  exact Or.inr (.call rfl ended rfl rfl)

theorem controls (sober : env.Sober) (context : ContextRef) (trees : List Control) :
    Unwinds env (Eval.controls env context trees) := by
  refine of_steady (sober.controls context trees) fun state exit last error ended raised => ?_
  rcases (Raises.calledBack sober.rescue sober.write context trees).elim ended raised with
    bare | ⟨value, values, site, start, inner, called, kind, trace⟩
  · exact Or.inl bare
  · have before := sober.call value values site start
    have during := sober.controls context trees state
    rw [called] at before
    rw [ended] at during
    exact Or.inr (.call (before.symm.trans during) called kind trace)

theorem executing {body : Run σ τ Halt α} (inside : Unwinds env body) :
    Unwinds env (Run.executing body) := by
  intro state
  have outcome := inside { state with space := state.space.enterExecution }
  simp only [Run.executing]
  generalize body _ = ended at outcome
  rcases ended with ⟨(error | fault | _) | value, last⟩
  · exact outcome
  · exact outcome
  · exact outcome
  · exact outcome

theorem program (sober : env.Sober) (context : ContextRef) (trees : List Control) :
    Unwinds env (env.finish (Eval.controls env context trees)) := by
  rw [sober.finish]
  intro state
  obtain ⟨steady, raises⟩ := controls sober context trees state
  refine ⟨steady, ?_⟩
  simp only [Run.finishing]
  rw [steady, Run.bodyResult_eq]
  cases ended : Run.bodyResult (.empty none) (Eval.controls env context trees state).1 with
  | ok value => trivial
  | error halt =>
    cases halt with
    | fault | outOfFuel => exact .silent rfl
    | raised arrived =>
      intro error same
      cases same
      rcases state.stack.attach_cases arrived with kept | ⟨bare, -, given⟩
      · have finished := raises.bodyResult
        rw [ended] at finished
        rw [kept]
        exact finished arrived rfl
      · rw [given]
        exact Or.inr (.program rfl ended bare rfl rfl)

theorem notify (sober : env.Sober) (data : Value) (site : SourceInfo) (callbacks : List Value) :
    Unwinds env (Eval.notify env data site callbacks) := by
  induction callbacks with
  | nil => exact pure ()
  | cons callback rest ih =>
    exact (askSpace _).bind fun arity => (call sober _ _ _).bind fun _ => ih

theorem triggerEvent (sober : env.Sober) (object : Value) (event : String) (data : Value)
    (site : SourceInfo) : Unwinds env (Eval.triggerEvent env object event data site) :=
  executing ((askSpace _).bind fun callbacks => notify sober data site callbacks)

theorem executeModule (sober : env.Sober) (context : ContextRef) (tree : Program) :
    Unwinds env (Eval.executeModule env context tree) :=
  executing ((ofSpace _).bind fun inner => (program sober inner _).bind fun _ => pure _)

theorem answered {P : ScriptError → Prop} {first : Run σ τ Halt α}
    {next : Except ScriptError α → Run σ τ Halt β} (steady : (first state).2.stack = state.stack)
    (raises : RaisesAt (fun _ => P) (first state))
    (after : ∀ result last, last.stack = state.stack →
      (∀ error ∈ failures result, P error) →
      UnwindsAt env state.stack (next result last)) :
    UnwindsAt env state.stack (Eval.answered first next state) := by
  simp only [Eval.answered]
  generalize first state = ended at steady raises
  rcases ended with ⟨(error | fault | _) | value, last⟩
  · refine after (.error error) last steady fun other member => ?_
    obtain rfl := List.mem_singleton.mp member
    exact raises _ rfl
  · exact ⟨steady, .silent rfl⟩
  · exact ⟨steady, .silent rfl⟩
  · exact after (.ok value) last steady nofun

private theorem follow_call {site : SourceInfo} {first : Run σ τ Halt α}
    (before : Unwinds env first) {next : Except ScriptError α → NativeCourse σ τ}
    {made : List ScriptError} (known : ∀ error ∈ made, Known env state.stack error)
    (rest : ∀ result state, (∀ error ∈ failures result ++ made, Known env state.stack error) →
      UnwindsAt env state.stack (Eval.follow env site (next result) state)) :
    UnwindsAt env state.stack
      (Eval.answered first (fun result => Eval.follow env site (next result)) state) := by
  refine answered (before state).1 (before state).2 fun result last same raised => ?_
  rw [← same] at known raised ⊢
  exact rest result last (List.forall_mem_append.mpr ⟨raised, known⟩)

/-- A candid course ends with errors without a backtrace, or with those of its own calls. -/
theorem follow (sober : env.Sober) (site : SourceInfo) (course : NativeCourse σ τ)
    {made : List ScriptError} (candid : course.Candid made) :
    ∀ state, (∀ error ∈ made, Known env state.stack error) →
      UnwindsAt env state.stack (Eval.follow env site course state) := by
  induction course generalizing made with
  | finish result =>
    intro state known
    cases result with
    | ok value => exact ⟨rfl, trivial⟩
    | error error =>
      refine ⟨rfl, fun other same => ?_⟩
      cases same
      exact (candid error (List.mem_singleton_self _)).elim Or.inl (known error)
  | abort fault => exact fun state known => ⟨rfl, .silent rfl⟩
  | look next ih => exact fun state known => ih _ (candid _) state known
  | act action next ih =>
    intro state known
    refine bind_at (ofSpace _) fun answer last same => ?_
    rw [← same] at known ⊢
    exact ih answer (candid answer) last known
  | write object key value place next ih =>
    intro state known
    have steady := Steady.setProperty env.host object key value place state
    have bare := Raises.setProperty sober.candid object key value place state
    refine answered steady bare fun result last same refused => ?_
    rw [← same] at known ⊢
    exact ih result (candid result refused) last known
  | change update next ih => exact fun state known => ih candid _ known
  | queue task next ih => exact fun state known => ih candid _ known
  | call callee arguments next ih =>
    exact fun state known => follow_call (call sober callee arguments site) known
      fun result => ih result (candid result)
  | trigger object event data next ih =>
    exact fun state known => follow_call (triggerEvent sober object event data site) known
      fun result => ih result (candid result)
  | execute context program next ih =>
    exact fun state known => follow_call (executeModule sober context program) known
      fun result => ih result (candid result)

end Unwinds

end Bodies

end ScriptEngine
