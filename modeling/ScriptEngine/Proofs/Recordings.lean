import ScriptEngine.Proofs.PairedExecutions

set_option autoImplicit false

namespace ScriptEngine

/-- A write that was put before a hook, and what the hook made of it. -/
structure HookCall where
  setter : Nat
  write : HostWrite
  answer : HookAnswer

/-- The state of a host together with a record. -/
structure Recorded (σ ρ : Type) where
  own : σ
  record : ρ

/-- A clerk takes down what happens during an execution: the steps of native bodies, with the space
and the tasks that wait, the questions to hooks, writes that have found their place, how bodies end,
which errors come to handlers, and the stack of calls each time it has changed. It may put a label
on tasks. -/
structure Clerk (σ τ ρ τ' : Type) : Type 1 where
  step : NativeCourse σ τ → Space → List τ' → ρ → ρ := fun _ _ _ record => record
  hook : HookCall → Space → ρ → ρ := fun _ _ record => record
  write : Place → Value → SourceInfo → ρ → ρ := fun _ _ _ record => record
  finish : Except Exit Unit → ρ → ρ := fun _ record => record
  rescue : ScriptError → ρ → ρ := fun _ record => record
  frame : CallStack → ρ → ρ := fun _ record => record
  label : ρ → τ → τ'
  task : τ' → τ
  task_label : ∀ record given, task (label record given) = given

section

variable {σ τ ρ τ' : Type}

namespace RunState

def noted (change : ρ → ρ) (state : RunState (Recorded σ ρ) τ) : RunState (Recorded σ ρ) τ :=
  { state with own.record := change state.own.record }

def beside (state : RunState σ τ) (record : ρ) : RunState (Recorded σ ρ) τ :=
  ⟨state.space, state.stack, ⟨state.own, record⟩, state.queue⟩

end RunState

/-- The state without the record and without labels. -/
def Clerk.forget (clerk : Clerk σ τ ρ τ') (state : RunState (Recorded σ ρ) τ') : RunState σ τ :=
  ⟨state.space, state.stack, state.own.own, state.queue.map clerk.task⟩

variable (clerk : Clerk σ τ ρ τ')

namespace NativeCourse

/-- Takes down that a native body has come to this step. -/
def noting (step : NativeCourse σ τ) (next : NativeCourse (Recorded σ ρ) τ') :
    NativeCourse (Recorded σ ρ) τ' :=
  .look fun view => .change (fun state =>
    { state with record := clerk.step step view.space view.queue state.record }) next

def recorded : NativeCourse σ τ → NativeCourse (Recorded σ ρ) τ'
  | .finish result => noting clerk (.finish result) (.finish result)
  | .abort fault => noting clerk (.abort fault) (.abort fault)
  | .look next => noting clerk (.look next) <| .look fun view =>
    (next ⟨view.space, view.classes, view.stack, view.own.own,
      view.queue.map clerk.task⟩).recorded
  | .act action next => noting clerk (.act action next) <|
    .act action fun answer => (next answer).recorded
  | .write object key value site next => noting clerk (.write object key value site next) <|
    .write object key value site fun result => (next result).recorded
  | .change update next => noting clerk (.change update next) <|
    .change (fun state => { state with own := update state.own }) next.recorded
  | .queue task next => .look fun view => noting clerk (.queue task next) <|
    .queue (clerk.label view.own.record task) next.recorded
  | .call callee arguments next => noting clerk (.call callee arguments next) <|
    .call callee arguments fun result => (next result).recorded
  | .trigger object event data next => noting clerk (.trigger object event data next) <|
    .trigger object event data fun result => (next result).recorded
  | .execute context program next => noting clerk (.execute context program next) <|
    .execute context program fun result => (next result).recorded

end NativeCourse

def Host.recorded (host : Host σ τ) : Host (Recorded σ ρ) τ' where
  native number call := (host.native number call).recorded clerk
  hook setter space write state :=
    let (answer, own) := host.hook setter space write state.own
    (answer, ⟨own, clerk.hook ⟨setter, write, answer⟩ space state.record⟩)

/-- The manner of the evaluator with all that the clerk takes down. -/
def Manner.recorded (host : Host σ τ) : Manner (Recorded σ ρ) τ' where
  write place value site state := Eval.writePlace (host.recorded clerk) place value site
    (state.noted (clerk.write place value site))
  finish body state :=
    let (result, state) := body state
    (Run.bodyResult state.stack result, state.noted (clerk.finish result))
  rescue body handler := Run.rescuing body fun error state =>
    handler error (state.noted (clerk.rescue error))
  frame frame body state :=
    match state.stack.push frame with
    | .error error => (.error (.raised (error.locate frame.site)), state)
    | .ok stack =>
      match body ({ state with stack }.noted (clerk.frame stack)) with
      | (result, last) =>
        let stack := last.stack.pop
        (result, { last with stack }.noted (clerk.frame stack))
  allow _ := pure ()
  body env kind call := Eval.follow env call.site ((host.course kind call).recorded clerk)

def Execution.recorded {α : Type} (host : Host σ τ) (classes : ClassRegistry) (fuel : Nat)
    (execution : Execution α) : Run (Recorded σ ρ) τ' Halt α :=
  execution.runBy (.recorded clerk host) (host.recorded clerk) classes fuel

namespace Clerk

theorem forget_beside {clerk : Clerk σ τ ρ τ} (unlabelled : clerk.task = id)
    (state : RunState σ τ) (record : ρ) : clerk.forget (state.beside record) = state := by
  simp [forget, RunState.beside, unlabelled]

/-- The state after a step of a native body. Whatever comes back to the body comes later. -/
def advance (course : NativeCourse σ τ) (state : RunState (Recorded σ ρ) τ') :
    RunState (Recorded σ ρ) τ' :=
  let after := state.noted (clerk.step course state.space state.queue)
  match course with
  | .act action _ => { after with space := (action.run state.space).2 }
  | .queue task _ => { after with queue := state.queue ++ [clerk.label state.own.record task] }
  | _ => after

/-- What the record always has in common with the state, below so many executions, and what is left
of that after a fault. -/
structure Invariant where
  holds : Nat → RunState (Recorded σ ρ) τ' → Prop
  torn : RunState (Recorded σ ρ) τ' → Prop
  tear : ∀ {depth state}, holds depth state → torn state
  own : ∀ {depth state}, holds depth state → ∀ own, holds depth { state with own.own := own }
  edit : ∀ {depth state}, holds depth state → ∀ {space}, Space.Edit state.space space →
    holds depth { state with space }
  enter : ∀ {depth state}, holds depth state →
    holds (depth + 1) { state with space := state.space.enterExecution }
  leave : ∀ {depth state}, holds (depth + 1) state →
    holds depth { state with space := state.space.leaveExecution }
  step : ∀ {depth state}, holds (depth + 1) state → ∀ course,
    holds (depth + 1) (clerk.advance course state)
  hook : ∀ {depth state}, holds (depth + 1) state → ∀ call,
    holds (depth + 1) (state.noted (clerk.hook call state.space))
  write : ∀ {depth state}, holds (depth + 1) state → ∀ place value site,
    holds (depth + 1) (state.noted (clerk.write place value site))
  finish : ∀ {depth state}, holds (depth + 1) state → ∀ result,
    holds (depth + 1) (state.noted (clerk.finish result))
  rescue : ∀ {depth state}, holds (depth + 1) state → ∀ error,
    holds (depth + 1) (state.noted (clerk.rescue error))
  push : ∀ {depth state}, holds (depth + 1) state → ∀ {frame stack},
    state.stack.push frame = .ok stack →
    holds (depth + 1) ({ state with stack }.noted (clerk.frame stack))
  pop : ∀ {depth state}, holds (depth + 1) state →
    holds (depth + 1) ({ state with stack := state.stack.pop }.noted
      (clerk.frame state.stack.pop))
  finish_torn : ∀ {state}, torn state → ∀ result, torn (state.noted (clerk.finish result))
  pop_torn : ∀ {state}, torn state →
    torn ({ state with stack := state.stack.pop }.noted (clerk.frame state.stack.pop))

namespace Invariant

variable {clerk} (invariant : clerk.Invariant)

/-- A run that is taken down beside the run itself, with these calls active in both. -/
def ties (stack : CallStack) : Ties (Recorded σ ρ) τ' σ τ where
  level depth left right :=
    clerk.forget left = right ∧ left.stack = stack ∧ invariant.holds depth left
  torn left right := clerk.forget left = right ∧ left.stack = stack ∧ invariant.torn left
  space_eq states := congrArg RunState.space states.1
  stack_eq states := congrArg RunState.stack states.1
  edit := by
    rintro _ left _ ⟨rfl, same, holds⟩ space edit
    exact ⟨rfl, same, invariant.edit holds edit⟩
  enter := by
    rintro _ left _ ⟨rfl, same, holds⟩
    exact ⟨rfl, same, invariant.enter holds⟩
  leave := by
    rintro _ left _ ⟨rfl, same, holds⟩
    exact ⟨rfl, same, invariant.leave holds⟩
  tear := by
    rintro _ left _ ⟨rfl, same, holds⟩
    exact ⟨rfl, same, invariant.tear holds⟩

variable {invariant} {stack : CallStack} {depth : Nat} {env : Environment (Recorded σ ρ) τ'}
  {env' : Environment σ τ}

private theorem follow_noting {site : SourceInfo} {step : NativeCourse σ τ}
    {next : NativeCourse (Recorded σ ρ) τ'} {second : Run σ τ Halt Value}
    (still : ∀ state, clerk.advance step state =
      state.noted (clerk.step step state.space state.queue))
    (both : Accord (invariant.ties stack) (depth + 1) (Eval.follow env site next) second) :
    Accord (invariant.ties stack) (depth + 1) (Eval.follow env site (.noting clerk step next))
      second := by
  rintro left _ ⟨rfl, same, holds⟩
  have after := invariant.step holds step
  rw [still] at after
  exact both _ _ ⟨rfl, same, after⟩

/-- A course that is taken down and the course itself, step by step. -/
private theorem follow_recorded (paired : env.Paired invariant.ties env') (site : SourceInfo)
    (course : NativeCourse σ τ) :
    Accord (invariant.ties stack) (depth + 1) (Eval.follow env site (course.recorded clerk))
      (Eval.follow env' site course) := by
  induction course with
  | finish result => exact follow_noting (fun _ => rfl) (Accord.orRaise result)
  | abort fault => exact follow_noting (fun _ => rfl) (Accord.throw _)
  | look next ih =>
    refine follow_noting (fun _ => rfl) ?_
    rintro left _ ⟨rfl, same, holds⟩
    simp only [Eval.follow, paired.classes]
    exact ih _ left _ ⟨rfl, same, holds⟩
  | act action next ih =>
    rintro left _ ⟨rfl, same, holds⟩
    have after := invariant.step holds (.act action next)
    have acted : Accordant (invariant.ties stack) (depth + 1)
        ((Run.ofSpace action.run : Run _ _ Halt _)
          (left.noted (clerk.step (.act action next) left.space left.queue)))
        (Run.ofSpace action.run (clerk.forget left)) := .whole _ ⟨rfl, same, after⟩
    exact Accord.bind (fun _ _ _ => acted) ih left (clerk.forget left) ⟨rfl, same, holds⟩
  | write object key value place next ih =>
    exact follow_noting (fun _ => rfl) <|
      .answered (Accord.setProperty (paired.accords stack depth).hook object key value place) ih
  | change update next ih =>
    refine follow_noting (fun _ => rfl) ?_
    rintro left _ ⟨rfl, same, holds⟩
    exact ih _ _ ⟨rfl, same, invariant.own holds _⟩
  | queue task next ih =>
    rintro left _ ⟨rfl, same, holds⟩
    have after := invariant.step holds (.queue task next)
    refine ih _ _ ⟨?_, same, after⟩
    simp [forget, clerk.task_label]
  | call callee arguments next ih =>
    exact follow_noting (fun _ => rfl) <|
      .answered ((paired.accords stack depth).call callee arguments site) ih
  | trigger object event data next ih =>
    exact follow_noting (fun _ => rfl) <| .answered
      (Accord.triggerEvent (paired.accords stack (depth + 1)) object event data site) ih
  | execute context program next ih =>
    exact follow_noting (fun _ => rfl) <| .answered
      (Accord.executeModule (paired.accords stack (depth + 1)) context program) ih

private theorem consult_recorded (host : Host σ τ) (stack : CallStack) (depth : Nat) (number : Nat)
    (write : HostWrite) :
    Accord (invariant.ties stack) (depth + 1) (Eval.consult (host.recorded clerk) number write)
      (Eval.consult host number write) := by
  rintro left _ ⟨rfl, same, holds⟩
  refine .whole _ ⟨rfl, same, ?_⟩
  let answered := host.hook number left.space write left.own.own
  exact invariant.hook (invariant.own holds answered.2) ⟨number, write, answered.1⟩

private theorem framed_recorded (host : Host σ τ) (stack : CallStack) (depth : Nat) (frame : Frame)
    {first : Run (Recorded σ ρ) τ' Halt Value} {second : Run σ τ Halt Value}
    (both : ∀ inner, Accord (invariant.ties inner) (depth + 1) first second) :
    Accord (invariant.ties stack) (depth + 1) ((Manner.recorded clerk host).frame frame first)
      (Run.framed frame second) := by
  rintro left _ ⟨rfl, rfl, holds⟩
  simp only [Manner.recorded, Run.framed, forget]
  cases entered : left.stack.push frame with
  | error error => exact .whole _ ⟨rfl, rfl, holds⟩
  | ok pushed =>
    have outcome := both pushed _ _ ⟨rfl, rfl, invariant.push holds entered⟩
    have back := CallStack.pop_push entered
    dsimp only [RunState.noted, forget] at outcome ⊢
    generalize first _ = ended at outcome
    generalize second _ = ended' at outcome
    cases outcome with
    | broken fault torn =>
      obtain ⟨rfl, same, torn⟩ := torn
      exact .broken fault ⟨rfl, (congrArg CallStack.pop same).trans back, invariant.pop_torn torn⟩
    | whole result states =>
      obtain ⟨rfl, same, holds⟩ := states
      exact .whole result ⟨rfl, (congrArg CallStack.pop same).trans back, invariant.pop holds⟩

theorem accords (invariant : clerk.Invariant) (host : Host σ τ) :
    (Manner.recorded clerk host).Accords invariant.ties (host.recorded clerk) (.plain host) host
    where
  hook := consult_recorded host
  write stack depth place value site := by
    rintro left _ ⟨rfl, same, holds⟩
    exact Accord.writePlace (consult_recorded host stack depth) place value site _ _
      ⟨rfl, same, invariant.write holds place value site⟩
  finish {stack depth first second} both := by
    intro left right states
    have outcome := both left right states
    simp only [Manner.recorded, Manner.plain, Run.finishing]
    generalize first left = ended at outcome
    generalize second right = ended' at outcome
    cases outcome with
    | broken isFault torn =>
      obtain ⟨fault, rfl⟩ := isFault
      obtain ⟨rfl, same, torn⟩ := torn
      exact .broken ⟨fault, rfl⟩ ⟨rfl, same, invariant.finish_torn torn _⟩
    | whole result states =>
      obtain ⟨rfl, same, holds⟩ := states
      exact .whole _ ⟨rfl, same, invariant.finish holds result⟩
  rescue both handlers := Accord.rescuing both fun error => by
    rintro left _ ⟨rfl, same, holds⟩
    exact handlers error _ _ ⟨rfl, same, invariant.rescue holds error⟩
  frame stack depth frame _ _ both := framed_recorded host stack depth frame both
  allow _ _ _ := Accord.pure ()
  body paired stack depth kind call := follow_recorded paired call.site (host.course kind call)

/-- An end with a record beside the end without: what was taken down changes nothing, the calls
that are active are those from before, and the record is as it should be. -/
structure Kept {α : Type} (invariant : clerk.Invariant) (depth : Nat) (stack : CallStack)
    (ended : Except Halt α × RunState (Recorded σ ρ) τ') (plain : Except Halt α × RunState σ τ) :
    Prop where
  same : Prod.map id clerk.forget ended = plain
  stack_eq : ended.2.stack = stack
  record : invariant.holds depth ended.2 ∨
    (∃ fault, ended.1 = .error (.fault fault)) ∧ invariant.torn ended.2

theorem Kept.of_accordant {α : Type} {ended : Except Halt α × RunState (Recorded σ ρ) τ'}
    {plain : Except Halt α × RunState σ τ}
    (outcome : Accordant (invariant.ties stack) depth ended plain) :
    invariant.Kept depth stack ended plain := by
  cases outcome with
  | whole result states =>
    obtain ⟨rfl, same, holds⟩ := states
    exact ⟨rfl, same, .inl holds⟩
  | broken isFault torn =>
    obtain ⟨fault, rfl⟩ := isFault
    obtain ⟨rfl, same, torn⟩ := torn
    exact ⟨rfl, same, .inr ⟨⟨fault, rfl⟩, torn⟩⟩

/-- An execution keeps what the record has in common with the state. -/
theorem execution (invariant : clerk.Invariant) (host : Host σ τ) (classes : ClassRegistry)
    (fuel : Nat) {α : Type} (execution : Execution α) {state : RunState (Recorded σ ρ) τ'}
    (begun : invariant.holds depth state) :
    invariant.Kept depth state.stack (execution.recorded clerk host classes fuel state)
      (execution.run host classes fuel (clerk.forget state)) := by
  rw [← Execution.runBy_plain]
  exact .of_accordant <| Accord.executionBy (invariant.accords host) state.stack classes fuel
    execution _ _ ⟨rfl, rfl, begun⟩

theorem execution_beside {clerk : Clerk σ τ ρ τ} (invariant : clerk.Invariant)
    (unlabelled : clerk.task = id) (host : Host σ τ) (classes : ClassRegistry) (fuel : Nat)
    {α : Type} (execution : Execution α) {state : RunState σ τ} {record : ρ}
    (begun : invariant.holds depth (state.beside record)) :
    invariant.Kept depth state.stack
      (execution.recorded clerk host classes fuel (state.beside record))
      (execution.run host classes fuel state) := by
  have kept := invariant.execution host classes fuel execution begun
  rwa [forget_beside unlabelled] at kept

theorem environment (invariant : clerk.Invariant) (host : Host σ τ) (classes : ClassRegistry)
    (fuel : Nat) :
    (Eval.environmentBy (.recorded clerk host) (host.recorded clerk) classes fuel).Paired
      invariant.ties (Eval.environment host classes fuel) := by
  rw [← Eval.environmentBy_plain]
  exact Accord.environmentBy (invariant.accords host) classes fuel

def any (clerk : Clerk σ τ ρ τ') : clerk.Invariant where
  holds _ _ := True
  torn _ := True
  tear _ := trivial
  own _ _ := trivial
  edit _ _ _ := trivial
  enter _ := trivial
  leave _ := trivial
  step _ _ := trivial
  hook _ _ := trivial
  write _ _ _ _ := trivial
  finish _ _ := trivial
  rescue _ _ := trivial
  push _ _ _ _ := trivial
  pop _ := trivial
  finish_torn _ _ := trivial
  pop_torn _ := trivial

end Invariant

variable {clerk}

/-- Whatever a clerk takes down, it changes nothing about an execution. -/
theorem forget_execution (host : Host σ τ) (classes : ClassRegistry) (fuel : Nat) {α : Type}
    (execution : Execution α) (state : RunState (Recorded σ ρ) τ') :
    Prod.map id clerk.forget (execution.recorded clerk host classes fuel state) =
      execution.run host classes fuel (clerk.forget state) := by
  have begun : (Invariant.any clerk).holds 0 state := trivial
  exact ((Invariant.any clerk).execution host classes fuel execution begun).same

theorem forget_execution_beside {clerk : Clerk σ τ ρ τ} (unlabelled : clerk.task = id)
    (host : Host σ τ) (classes : ClassRegistry) (fuel : Nat) {α : Type} (execution : Execution α)
    (state : RunState σ τ) (record : ρ) :
    Prod.map id clerk.forget
        (execution.recorded clerk host classes fuel (state.beside record)) =
      execution.run host classes fuel state := by
  rw [forget_execution, forget_beside unlabelled]

/-- The clerk takes nothing down about the steps of native bodies but what they look at and which
tasks they queue. -/
def Discreet (clerk : Clerk σ τ ρ τ') : Prop :=
  ∀ {course : NativeCourse σ τ} space waiting record, (∀ next, course ≠ .look next) →
    (∀ task next, course ≠ .queue task next) → clerk.step course space waiting record = record

namespace Discreet

variable (discreet : clerk.Discreet) (env : Environment (Recorded σ ρ) τ') (site : SourceInfo)
  {α : Type}
include discreet

private theorem follow_noting (step : NativeCourse σ τ) (unseen : ∀ next, step ≠ .look next)
    (unqueued : ∀ task next, step ≠ .queue task next) (next : NativeCourse (Recorded σ ρ) τ') :
    Eval.follow env site (.noting clerk step next) = Eval.follow env site next := by
  funext state
  exact congrArg (fun record => Eval.follow env site next { state with own.record := record })
    (discreet state.space state.queue state.own.record unseen unqueued)

private theorem follow_finish (result : Except ScriptError Value) :
    Eval.follow env site ((NativeCourse.finish result : NativeCourse σ τ).recorded clerk) =
      Eval.follow env site (.finish result) :=
  follow_noting discreet env site (.finish result) nofun nofun _

private theorem follow_act {action : SpaceAction α} {next : α → NativeCourse σ τ}
    {next' : α → NativeCourse (Recorded σ ρ) τ'}
    (rest : ∀ answer, Eval.follow env site ((next answer).recorded clerk) =
      Eval.follow env site (next' answer)) :
    Eval.follow env site ((NativeCourse.act action next).recorded clerk) =
      Eval.follow env site (.act action next') := by
  refine (follow_noting discreet env site (.act action next) nofun nofun _).trans ?_
  exact congrArg (Run.ofSpace action.run >>= ·) (funext rest)

private theorem follow_orFail (result : Except ScriptError α) {next : α → NativeCourse σ τ}
    {next' : α → NativeCourse (Recorded σ ρ) τ'}
    (rest : ∀ value, Eval.follow env site ((next value).recorded clerk) =
      Eval.follow env site (next' value)) :
    Eval.follow env site ((NativeCourse.orFail result next).recorded clerk) =
      Eval.follow env site (.orFail result next') := by
  cases result with
  | ok value => exact rest value
  | error error => exact follow_finish discreet env site _

private theorem follow_orAbort (result : Except Fault α) {next : α → NativeCourse σ τ}
    {next' : α → NativeCourse (Recorded σ ρ) τ'}
    (rest : ∀ value, Eval.follow env site ((next value).recorded clerk) =
      Eval.follow env site (next' value)) :
    Eval.follow env site ((NativeCourse.orAbort result next).recorded clerk) =
      Eval.follow env site (.orAbort result next') := by
  cases result with
  | ok value => exact rest value
  | error fault => exact follow_noting discreet env site (.abort fault) nofun nofun _

theorem follow_course (host : Host σ τ) (kind : NativeBody) (call : NativeCall) :
    Eval.follow env site ((host.course kind call).recorded clerk) =
      Eval.follow env site ((host.recorded clerk).course kind call) := by
  cases kind with
  | host number => rfl
  | subscribe =>
    simp only [Host.course, NativeCourse.subscribe]
    split
    · refine follow_orFail discreet env site _ fun event => ?_
      split
      · exact follow_orAbort discreet env site _ fun object =>
          follow_act discreet env site fun _ => follow_finish discreet env site _
      · exact follow_finish discreet env site _
    · exact follow_finish discreet env site _
  | unsubscribe =>
    simp only [Host.course, NativeCourse.unsubscribe]
    split
    · exact follow_orFail discreet env site _ fun event =>
        follow_orAbort discreet env site _ fun object =>
          follow_act discreet env site fun _ => follow_finish discreet env site _
    · exact follow_finish discreet env site _
  | dispatch =>
    simp only [Host.course, NativeCourse.dispatch]
    split
    · refine follow_orFail discreet env site _ fun event => ?_
      refine follow_orAbort discreet env site _ fun object => ?_
      refine (follow_noting discreet env site (.trigger object event _ _) nofun nofun _).trans ?_
      exact congrArg (Eval.answered (Eval.triggerEvent env object event _ site)) <|
        funext fun result => follow_orFail discreet env site result fun _ =>
          follow_finish discreet env site _
    · exact follow_finish discreet env site _

theorem body_recorded (host : Host σ τ) :
    (Manner.recorded clerk host).body = (Manner.plain (host.recorded clerk)).body := by
  funext env kind call
  exact follow_course discreet env call.site host kind call

end Discreet

theorem frame_recorded (unframed : ∀ stack record, clerk.frame stack record = record)
    (host : Host σ τ) : (Manner.recorded clerk host).frame = Run.framed := by
  funext frame body state
  cases entered : state.stack.push frame with
  | error error => simp [Manner.recorded, Run.framed, entered]
  | ok stack => simp [Manner.recorded, Run.framed, RunState.noted, entered, unframed]

/-- What a clerk without interest in anything but native bodies takes down is up to the host. -/
theorem Discreet.recorded_eq_plain (discreet : clerk.Discreet)
    (write : ∀ place value site record, clerk.write place value site record = record)
    (finish : ∀ result record, clerk.finish result record = record)
    (rescue : ∀ error record, clerk.rescue error record = record)
    (frame : ∀ stack record, clerk.frame stack record = record) (host : Host σ τ) :
    Manner.recorded clerk host = .plain (host.recorded clerk) := by
  ext : 1
  · funext place value site state
    simp only [Manner.recorded, Manner.plain, RunState.noted, write]
  · funext body state
    simp only [Manner.recorded, Manner.plain, Run.finishing, RunState.noted, finish]
  · funext body handler
    simp only [Manner.recorded, Manner.plain, RunState.noted, rescue]
  · exact frame_recorded frame host
  · rfl
  · exact discreet.body_recorded host

end Clerk

end

end ScriptEngine
