import ScriptEngine.Proofs.Deferral
import ScriptEngine.Proofs.Generations
import ScriptEngine.Proofs.SoundExecutions
import ScriptEngine.Proofs.CollectionSurvivors

set_option autoImplicit false

namespace ScriptEngine

open Relation (ReflTransGen)

namespace Space

/-- A collection is made here, and its roots do not reach the object. -/
structure Misses (space : Space) (extra : List Handle) (handle : Handle) : Prop where
  live : space.contains handle = true
  made : (space.collect extra).1.deferred = false
  unreached : ¬ Reached space (Root space extra) handle

variable {before after : Space} {handle : Handle}

theorem Spared.contains (spared : Spared before after) (live : before.contains handle = true) :
    after.contains handle = true := by
  obtain ⟨payload, held⟩ := Option.isSome_iff_exists.mp live
  obtain ⟨slot, found, current, full⟩ := get?_eq_some_iff.mp held
  obtain ⟨next, there, generation, kept⟩ := spared handle.index slot found
  obtain ⟨payload', full'⟩ := Option.isSome_iff_exists.mp (kept (by simp [full]))
  have held' : after.get? handle = some payload' :=
    get?_eq_some_iff.mpr ⟨next, there, generation.trans current, full'⟩
  exact Option.isSome_iff_exists.mpr ⟨payload', held'⟩

theorem Step.contains (tidy : before.Tidy) (step : Step before after)
    (live : before.contains handle = true) :
    after.contains handle = true ∨
      ∃ extra, before.Misses extra handle ∧ after = (before.collect extra).2 := by
  rcases step.spared_or_collect with spared | ⟨extra, rfl⟩
  · exact .inl (spared.contains live)
  · by_cases busy : before.inExecution = true
    · rw [collect_deferred busy]
      exact .inl live
    · have done := collected tidy (by simpa using busy) extra
      by_cases reached : Reached before (Root before extra) handle
      · left
        rw [Space.contains, done.survives handle reached]
        exact live
      · exact .inr ⟨extra, ⟨live, done.performed, reached⟩, rfl⟩

theorem Fits.contains {space : Space} {value : Value} (fits : space.Fits value)
    (points : value.handle? = some handle) : space.contains handle = true := by
  cases value with
  | undefined | null | bool | int | float | string => cases points
  | array | object =>
    cases points
    obtain ⟨payload, held⟩ := fits
    simp [Space.contains, held]
  | callable =>
    cases points
    rcases fits with ⟨payload, held⟩ | ⟨payload, held⟩
    · simp [Space.contains, held]
    · simp [Space.contains, held]

/-- Along any operations an object stays live until a collection is made that misses it. -/
theorem contains_of_steps (reachable : before.Reachable) (steps : ReflTransGen Step before after)
    (live : before.contains handle = true) :
    after.contains handle = true ∨
      ∃ middle extra, ReflTransGen Step before middle ∧ middle.Misses extra handle ∧
        ReflTransGen Step (middle.collect extra).2 after := by
  induction steps with
  | refl => exact .inl live
  | @tail last next path step ih =>
    rcases ih with still | ⟨middle, extra, until', misses, since⟩
    · have tidy : last.Tidy := Reachable.tidy (reachable.trans path)
      rcases step.contains tidy still with kept | ⟨extra, misses, rfl⟩
      · exact .inl kept
      · exact .inr ⟨last, extra, path, misses, .refl⟩
    · exact .inr ⟨middle, extra, until', misses, since.tail step⟩

end Space

namespace Run

variable {σ τ α : Type} {state last : RunState σ τ} {answer : α}

theorem ofSpace_eq_ok {operation : SpaceM α}
    (ended : (ofSpace operation : Run σ τ Halt α) state = (.ok answer, last)) :
    ∃ space, operation state.space = (.ok answer, space) ∧ last = { state with space } := by
  simp only [ofSpace] at ended
  generalize operation state.space = done at ended
  rcases done with ⟨fault | value, space⟩
  · cases ended
  · cases ended
    exact ⟨space, rfl, rfl⟩

theorem executing_eq_ok {body : Run σ τ Halt α}
    (ended : executing body state = (.ok answer, last)) :
    ∃ final, body { state with space := state.space.enterExecution } = (.ok answer, final) ∧
      last = { final with space := final.space.leaveExecution } := by
  simp only [executing] at ended
  generalize body _ = done at ended
  rcases done with ⟨(error | fault | _) | value, final⟩
  · cases ended
  · cases ended
  · cases ended
  · cases ended
    exact ⟨final, rfl, rfl⟩

end Run

section Programs

variable {σ τ : Type}

/-- Offered values that fit, the hooks store values that fit. -/
def Host.StoresFitting (host : Host σ τ) : Prop :=
  ∀ number space write own value, space.Sound → space.FitsWrite write →
    (host.hook number space write own).1 = .store value → space.Fits value

/-- Nothing that a program finds is stale: all stored handles are live and of the right kind, native
functions are event methods, and hooks store only what fits. -/
structure Host.Honest (host : Host σ τ) (space : Space) : Prop where
  sound : space.Sound
  natives : ∀ {handle callee}, space.get? handle = some (.native callee) → callee.body.IsEvent
  hooks : host.StoresFitting

theorem Host.StoresFitting.obliging {host : Host σ τ} (hooks : host.StoresFitting)
    (rooted : Prop) (start : Space) : Obliging (.alone False rooted start) host where
  stores _ pairing space twins number write own value fits answer := by
    obtain ⟨-, rfl⟩ := Space.pairing_eq_diagonal twins
    refine Space.fits_iff.mp (hooks number space write own value ?_ ?_ answer)
    · exact (Space.healthy_of_twins twins).sound
    · exact ⟨Space.fits_iff.mpr fits.object, Space.fits_iff.mpr fits.value,
        Space.allFit_iff.mpr fits.captures⟩
  stays _ strict := absurd strict id

/-- Whatever native functions do, a body that is executed loses nothing that was there before. -/
theorem later_of_finishing (host : Host σ τ) (classes : ClassRegistry) (fuel : Nat)
    (inner : ContextRef) (body : List Control) (state : RunState σ τ)
    (reachable : state.space.Reachable) (busy : state.space.inExecution = true) :
    Space.Later state.space
      (Run.finishing (Eval.controls (Eval.environment host classes fuel) inner body)
        state).2.space := by
  -- The watch begins outside of the execution that is going on.
  have outside : state.space.leaveExecution.Reachable := reachable.tail (.leave _)
  have deep : 0 < state.space.executions := by simpa [Space.inExecution] using busy
  have back : state.space.leaveExecution.enterExecution = state.space := by
    simp only [Space.leaveExecution, Space.enterExecution, Nat.sub_add_cancel deep]
  have sighted : Space.Sighted state.space.leaveExecution [] state.space := by
    have entered := (Space.Sighted.begin state.space.leaveExecution).move
      (.single (.enter _)) (.of_slots rfl id)
    rwa [back] at entered
  have count : state.space.executions = state.space.leaveExecution.executions + (0 + 1) := by
    simp only [Space.leaveExecution]
    omega
  have paired := outside.watching.environment host classes fuel
  have both := Accord.finishing (Accord.controls (paired.accords state.stack 0) inner body)
  have watched := Clerk.Invariant.Kept.of_accordant <|
    both (state.beside []) state ⟨Clerk.forget_beside rfl state [], rfl, sighted, count⟩
  have seen := watched.record.elim And.left And.right
  have later := (List.pairwise_cons.mp seen.trail).1 _
    (List.mem_append_right _ (List.mem_singleton.mpr rfl))
  rw [← watched.same]
  have left : Space.Later state.space state.space.leaveExecution := .of_slots rfl id
  exact left.trans later

theorem Space.Tidy.kind?_of_fork {space after : Space} (tidy : space.Tidy)
    {parent below : ContextRef} {site : SourceInfo}
    (made : Space.fork parent site space = (.ok below, after)) :
    after.kind? below.handle = some .context := by
  rcases tidy.fork parent site with ⟨other, space', done, -, -, placed⟩ | ⟨failed, -⟩
  · rw [done] at made
    cases made
    rw [Space.kind?, placed.here]
    rfl
  · rw [failed] at made
    cases made

theorem hasContext_of_executeModule {host : Host σ τ} {classes : ClassRegistry} {fuel : Nat}
    {context inner : ContextRef} {program : Program} {value : Value} {state last : RunState σ τ}
    (reachable : state.space.Reachable)
    (ran : Eval.executeModule (Eval.environment host classes fuel) context program state =
      (.ok (value, inner), last)) : last.space.HasContext inner := by
  obtain ⟨final, body, rfl⟩ := Run.executing_eq_ok ran
  obtain ⟨below, start, forked, rest⟩ := Act.bind_eq_ok body
  obtain ⟨space, made, rfl⟩ := Run.ofSpace_eq_ok forked
  obtain ⟨answer, finished, ended, same⟩ := Act.bind_eq_ok rest
  cases same
  change Run.finishing _ _ = _ at ended
  have entered : state.space.enterExecution.Reachable := reachable.tail (.enter state.space)
  have reached : space.Reachable := by
    have step := Space.Step.act (.fork context program.site) state.space.enterExecution
    rw [SpaceAction.run, made] at step
    exact entered.tail step
  have busy : space.inExecution = true := by
    have count := Space.executions_run (.fork context program.site) state.space.enterExecution
    rw [SpaceAction.run, made] at count
    have deep : space.executions = state.space.executions + 1 := count
    simp [Space.inExecution, deep]
  have later := later_of_finishing host classes fuel inner program.body.controls
    ⟨space, state.stack, state.own, state.queue⟩ reached busy
  rw [ended] at later
  obtain ⟨payload, held, kind⟩ := Option.map_eq_some_iff.mp
    (later.kept inner.handle .context (entered.tidy.kind?_of_fork made))
  cases payload with
  | context data => exact ⟨data, held⟩
  | array | object | function | native => cases kind

theorem reachable_of_executeModule {host : Host σ τ} {classes : ClassRegistry} {fuel : Nat}
    {context : ContextRef} {program : Program} {state last : RunState σ τ}
    {result : Except Halt (Value × ContextRef)} (reachable : state.space.Reachable)
    (ran : Eval.executeModule (Eval.environment host classes fuel) context program state =
      (result, last)) : last.space.Reachable := by
  have sighted := (reachable.sighted host classes fuel (.executeModule context program)).2.1
  have steps := sighted.reached
  rw [Execution.run, ran] at steps
  exact reachable.trans steps

theorem World.executeModule_eq_ok {host : Host σ τ} {fuel : Nat} {context : ContextRef}
    {program : Program} {answer : Value × ContextRef} {world after : World σ τ}
    (ran : World.executeModule host fuel context program world = (.ok answer, after)) :
    ∃ last, Eval.executeModule (Eval.environment host world.realm.classes fuel) context program
        ⟨world.realm.space, world.realm.newStack, world.own, world.queue⟩ = (.ok answer, last) ∧
      last.space = after.realm.space := by
  obtain ⟨⟨space, classes, config⟩, own, queue⟩ := world
  simp only [World.executeModule, World.runFresh, World.run] at ran
  rcases ended : Eval.executeModule (Eval.environment host classes fuel) context program
    ⟨space, Realm.newStack ⟨space, classes, config⟩, own, queue⟩ with ⟨result, last⟩
  rw [ended] at ran
  cases ran
  exact ⟨last, rfl, rfl⟩

theorem fits_of_executeModule {host : Host σ τ} (hooks : host.StoresFitting)
    {world after : World σ τ} (healthy : world.realm.space.Healthy False False)
    {context inner : ContextRef} (live : world.realm.space.HasContext context) {program : Program}
    {fuel : Nat} {value : Value}
    (ran : World.executeModule host fuel context program world = (.ok (value, inner), after)) :
    after.realm.space.Fits value := by
  have done := World.healthy_run world.realm.newStack
    (fun classes => Eval.executeModule (Eval.environment host classes fuel) context program)
    healthy fun queue =>
      Lockstep.executeModule
        (Lockstep.faithful_environment (hooks.obliging _ _) world.realm.classes fuel)
        (Space.hasContext_iff.mp live) program (fun strict => absurd strict id)
  have fitting : ∀ answer, (World.executeModule host fuel context program world).1 = .ok answer →
      answer.1.Alike
        (World.executeModule host fuel context program world).2.realm.space.diagonal answer.1 :=
    fun answer returned => (done.2.1 answer returned).1
  rw [ran] at fitting
  exact Space.fits_iff.mpr (fitting (value, inner) rfl)

end Programs

namespace Realm

variable {realm : Realm} {context : ContextRef}

theorem step_collect (realm : Realm) (extra : List Handle) :
    Space.Step realm.space (realm.collect extra).2.space :=
  .act (.collect (realm.classes.references ++ extra)) realm.space

theorem reachable_maybeCollect (reachable : realm.space.Reachable) (extra : List Handle) :
    (realm.maybeCollect extra).2.space.Reachable := by
  unfold maybeCollect
  split
  · exact reachable.tail (realm.step_collect extra)
  · exact reachable

theorem healthy_maybeCollect (healthy : realm.space.Healthy False False)
    (live : realm.space.HasContext context) :
    (realm.maybeCollect [context.handle]).2.space.Healthy False False ∧
      (realm.maybeCollect [context.handle]).2.space.HasContext context := by
  unfold maybeCollect
  split
  · obtain ⟨remainder, roots⟩ := Space.remainder_collect healthy.tidy
      (realm.classes.references ++ [context.handle])
    refine ⟨healthy.remainder remainder, ?_⟩
    obtain ⟨data, held⟩ := live
    refine ⟨data, (roots context.handle (.given ?_)).trans held⟩
    simp
  · exact ⟨healthy, live⟩

end Realm

/-- Tasks act on the space by its operations only. -/
def Embedding.Orderly {σ τ : Type} (embedding : Embedding σ τ) : Prop :=
  ∀ task engine, engine.world.realm.space.Reachable →
    ReflTransGen Space.Step engine.world.realm.space
      (embedding.perform task engine).2.world.realm.space

namespace Engine

variable {σ τ : Type} {embedding : Embedding σ τ} {engine middle last : Engine σ τ}
  {context inner : ContextRef} {program : Program} {value : Value}

/-- What an engine does for a program before it turns to the tasks that wait. -/
def evaluation (embedding : Embedding σ τ) (context : ContextRef) (program : Program) :
    EngineM σ τ (Except ScriptError (Value × ContextRef)) := do
  let _ ← collectIfDue context
  onWorld (World.executeModule embedding.host embedding.fuel context program)

/-- The first task in the queue is run. -/
inductive TaskRun (embedding : Embedding σ τ) : Engine σ τ → Engine σ τ → Prop where
  | run {engine : Engine σ τ} {task : τ} {rest : List τ}
      (waits : engine.world.queue = task :: rest) :
      TaskRun embedding engine
        (runTask embedding task { engine with world.queue := rest }).2

/-- One of the tasks that are run from here on finds an object live and leaves it reclaimed. -/
def TaskReclaims (embedding : Embedding σ τ) (engine : Engine σ τ) (handle : Handle) : Prop :=
  ∃ before after, ReflTransGen (TaskRun embedding) engine before ∧
    TaskRun embedding before after ∧ before.world.realm.space.contains handle = true ∧
    after.world.realm.space.contains handle = false

private theorem path_drainWithin (bound : Nat) (engine : Engine σ τ) :
    ReflTransGen (TaskRun embedding) engine (drainWithin embedding bound engine).2 := by
  induction bound generalizing engine with
  | zero => exact .refl
  | succ bound ih =>
    unfold drainWithin
    split
    · exact .refl
    · next task rest waits =>
      have first : TaskRun embedding engine _ := .run waits
      split
      · next ran =>
        rw [ran] at first
        exact .head first (ih _)
      · next ran =>
        rw [ran] at first
        exact .single first

theorem contains_of_taskRuns {handle : Handle}
    (path : ReflTransGen (TaskRun embedding) engine last)
    (live : engine.world.realm.space.contains handle = true) :
    last.world.realm.space.contains handle = true ∨ TaskReclaims embedding engine handle := by
  induction path with
  | refl => exact .inl live
  | @tail before after path task ih =>
    rcases ih with still | lost
    · by_cases kept : after.world.realm.space.contains handle = true
      · exact .inl kept
      · exact .inr ⟨before, after, path, task, still, by simpa using kept⟩
    · exact .inr lost

theorem evaluation_of_executeModule {answer : Value × ContextRef}
    (returned : executeModule embedding context program engine = (.ok (.ok answer), last)) :
    ∃ middle final, evaluation embedding context program { engine with held := true } =
        (.ok (.ok answer), middle) ∧
      drain embedding middle = (.ok (), final) ∧ last = { final with held := false } := by
  have unfolded : executeModule embedding context program engine =
      (flatten <$> withRealm embedding (evaluation embedding context program)) engine := rfl
  rw [unfolded, Act.map_apply] at returned
  by_cases held : engine.held = true
  · rw [withRealm_of_held held] at returned
    cases returned
  · rw [withRealm_of_free (by simpa using held)] at returned
    generalize evaluation embedding context program _ = evaluated at returned
    rcases evaluated with ⟨abort | result, middle⟩
    · cases returned
    · dsimp only at returned
      rcases drained : drain embedding middle with ⟨abort | _, final⟩
      · rw [drained] at returned
        cases returned
      · rw [drained] at returned
        cases returned
        exact ⟨middle, final, rfl, drained, rfl⟩

/-- The engine collects first, if a collection is due, and then runs the program. -/
theorem executeModule_of_evaluation {answer : Value × ContextRef}
    (evaluated : evaluation embedding context program engine = (.ok (.ok answer), middle)) :
    World.executeModule embedding.host embedding.fuel context program
      { engine.world with realm := (engine.world.realm.maybeCollect [context.handle]).2 } =
      (.ok answer, middle.world) := by
  have collected : (collectIfDue context : EngineM σ τ (Option CollectStats)) engine =
      (.ok (engine.world.realm.maybeCollect [context.handle]).1,
        { engine with world.realm := (engine.world.realm.maybeCollect [context.handle]).2 }) := by
    simp [collectIfDue, onRealm, modifyGet, MonadStateOf.modifyGet, Except.mapError]
  simp only [evaluation, Act.bind_apply, collected, onWorld] at evaluated
  generalize World.executeModule embedding.host embedding.fuel context program _ = ran at evaluated
  rcases ran with ⟨(error | fault | _) | value, world⟩
  · cases evaluated
  · cases evaluated
  · cases evaluated
  · cases evaluated
    rfl

theorem contains_inner (reachable : engine.world.realm.space.Reachable)
    (evaluated : evaluation embedding context program engine = (.ok (.ok (value, inner)), middle)) :
    middle.world.realm.space.contains inner.handle = true := by
  have reached := Realm.reachable_maybeCollect reachable [context.handle]
  obtain ⟨state, ran, same⟩ := World.executeModule_eq_ok (executeModule_of_evaluation evaluated)
  obtain ⟨data, held⟩ := hasContext_of_executeModule reached ran
  rw [← same]
  simp [Space.contains, held]

theorem reachable_evaluation (reachable : engine.world.realm.space.Reachable)
    (evaluated : evaluation embedding context program engine = (.ok (.ok (value, inner)), middle)) :
    middle.world.realm.space.Reachable := by
  have reached := Realm.reachable_maybeCollect reachable [context.handle]
  obtain ⟨state, ran, same⟩ := World.executeModule_eq_ok (executeModule_of_evaluation evaluated)
  rw [← same]
  exact reachable_of_executeModule reached ran

theorem contains_value
    (evaluated : evaluation embedding context program engine = (.ok (.ok (value, inner)), middle))
    (honest : embedding.host.Honest engine.world.realm.space)
    (reachable : engine.world.realm.space.Reachable)
    (live : engine.world.realm.space.HasContext context) {handle : Handle}
    (points : value.handle? = some handle) :
    middle.world.realm.space.contains handle = true := by
  have healthy : engine.world.realm.space.Healthy False False :=
    ⟨reachable.tidy, honest.sound, honest.natives, nofun, nofun, nofun⟩
  obtain ⟨after, present⟩ := Realm.healthy_maybeCollect healthy live
  have fits := fits_of_executeModule honest.hooks after present
    (executeModule_of_evaluation evaluated)
  exact fits.contains points

private theorem space_runTask (task : τ) :
    (runTask embedding task engine).2.world.realm.space =
      (embedding.perform task engine).2.world.realm.space := by
  simp only [runTask, Act.bind_apply]
  rcases embedding.perform task engine with ⟨abort | error | _, after⟩ <;> rfl

theorem TaskRun.steps (orderly : embedding.Orderly)
    (reachable : engine.world.realm.space.Reachable) (run : TaskRun embedding engine last) :
    ReflTransGen Space.Step engine.world.realm.space last.world.realm.space := by
  cases run with
  | @run task rest waits =>
    rw [space_runTask]
    exact orderly task { engine with world.queue := rest } reachable

theorem reachable_of_taskRuns (orderly : embedding.Orderly)
    (reachable : engine.world.realm.space.Reachable)
    (path : ReflTransGen (TaskRun embedding) engine last) :
    last.world.realm.space.Reachable := by
  induction path with
  | refl => exact reachable
  | tail _ run reached => exact reached.trans (run.steps orderly reached)

/-- A task that does nothing to the space but operate on it reclaims by a collection. -/
theorem misses_of_taskReclaims (orderly : embedding.Orderly) {handle : Handle}
    (reachable : engine.world.realm.space.Reachable)
    (reclaims : TaskReclaims embedding engine handle) :
    ∃ before after space extra, ReflTransGen (TaskRun embedding) engine before ∧
      TaskRun embedding before after ∧
      ReflTransGen Space.Step before.world.realm.space space ∧ space.Misses extra handle ∧
      ReflTransGen Space.Step (space.collect extra).2 after.world.realm.space := by
  obtain ⟨before, after, path, run, live, lost⟩ := reclaims
  have reached := reachable_of_taskRuns orderly reachable path
  rcases Space.contains_of_steps reached (run.steps orderly reached) live with
    kept | ⟨space, extra, until', misses, since⟩
  · simp [lost] at kept
  · exact ⟨before, after, space, extra, path, run, until', misses, since⟩

/-- What a program returns is live when its caller gets it, unless one of the tasks that were run in
between has reclaimed it. So is everything that was live when the program had come to its end. Tasks
that only operate on the space reclaim by a collection that misses the object. -/
theorem results_live_unless_task_reclaims (reachable : engine.world.realm.space.Reachable)
    (returned : executeModule embedding context program engine =
      (.ok (.ok (value, inner)), last)) :
    let middle := (evaluation embedding context program { engine with held := true }).2
    execute embedding context program engine = (.ok (.ok value), last) ∧
    (last.world.realm.space.contains inner.handle = true ∨
      TaskReclaims embedding middle inner.handle) ∧
    (embedding.host.Honest engine.world.realm.space →
      engine.world.realm.space.HasContext context → ∀ handle, value.handle? = some handle →
        last.world.realm.space.contains handle = true ∨ TaskReclaims embedding middle handle) ∧
    (∀ handle, middle.world.realm.space.contains handle = true →
      last.world.realm.space.contains handle = true ∨ TaskReclaims embedding middle handle) ∧
    (embedding.Orderly → ∀ handle, TaskReclaims embedding middle handle →
      ∃ before after space extra, ReflTransGen (TaskRun embedding) middle before ∧
        TaskRun embedding before after ∧
        ReflTransGen Space.Step before.world.realm.space space ∧ space.Misses extra handle ∧
        ReflTransGen Space.Step (space.collect extra).2 after.world.realm.space) := by
  obtain ⟨middle, final, evaluated, drained, rfl⟩ := evaluation_of_executeModule returned
  have alone : execute embedding context program engine =
      (.ok (.ok value), { final with held := false }) := by
    rw [execute, Act.bind_apply, returned]
    rfl
  rw [evaluated]
  intro middle
  have kept : ∀ handle, middle.world.realm.space.contains handle = true →
      final.world.realm.space.contains handle = true ∨ TaskReclaims embedding middle handle := by
    intro handle live
    have path : ReflTransGen (TaskRun embedding) middle (drain embedding middle).2 :=
      path_drainWithin embedding.fuel middle
    rw [drained] at path
    exact contains_of_taskRuns path live
  have start : ({ engine with held := true } : Engine σ τ).world.realm.space.Reachable := reachable
  refine ⟨alone, kept _ (contains_inner start evaluated), ?_, kept, ?_⟩
  · intro honest live handle points
    exact kept handle (contains_value evaluated honest start live points)
  · intro orderly handle reclaims
    exact misses_of_taskReclaims orderly (reachable_evaluation start evaluated) reclaims

/-- Tasks that collect. -/
private def tidying : Embedding Unit Unit where
  host := .storing
  perform _ := do
    let _ ← onRealm (modifyGet (·.collect []))
    return .ok ()
  fuel := 4

/-- A global context that has an array under a name. -/
private def shelf : Space :=
  let opened : Space := ((SpaceAction.newGlobal "main" "" '/').run {}).2
  let filled := ((SpaceAction.allocateArray #[]).run opened).2
  ((SpaceAction.define ⟨⟨0, 0⟩⟩ "kept" (.array ⟨1, 0⟩) .immutable).run filled).2

/-- One task waits. -/
private def waiting : Engine Unit Unit := ⟨⟨{ space := shelf }, (), [()]⟩, [], false⟩

/-- A program that returns the value of an operand. -/
private def returning (operand : Operand) : Program :=
  .mk .empty (.mk .empty [.statement .empty (.node .empty .ret none (some operand))])

private def named : Program := returning (.var .empty ⟨.empty, "kept", .none⟩)

private def made : Program := returning (.array .empty [])

private theorem reachable_shelf : shelf.Reachable :=
  ((ReflTransGen.refl.tail (.act _ _)).tail (.act _ _)).tail (.act _ _)

private theorem orderly_tidying : tidying.Orderly := by
  intro task engine reachable
  obtain ⟨⟨realm, own, queue⟩, errors, held⟩ := engine
  exact .single (realm.step_collect [])

private theorem honest_tidying : tidying.host.Honest shelf := by
  have slots : ∀ {handle payload}, shelf.get? handle = some payload →
      payload = .array #[] ∨ payload = .context ⟨.global ⟨"main", "main", ""⟩ [],
        (∅ : Table String Binding).insert "kept" ⟨.array ⟨1, 0⟩, .immutable⟩⟩ := by
    intro handle payload held
    obtain ⟨index, generation⟩ := handle
    obtain ⟨slot, found, -, full⟩ := Space.get?_eq_some_iff.mp held
    match index with
    | 0 =>
      cases found
      exact .inr (Option.some.inj full).symm
    | 1 =>
      cases found
      exact .inl (Option.some.inj full).symm
    | index + 2 => cases found
  refine ⟨⟨fun held => ?_, fun found => nomatch found⟩, fun held => ?_, ?_⟩
  · rcases slots held with rfl | rfl
    · exact fun value member => nomatch member
    · refine ⟨fun parent above => (nomatch above), fun name binding found => ?_⟩
      rw [Table.get?_insert] at found
      split at found
      · cases found
        exact ⟨#[], rfl⟩
      · cases found
  · rcases slots held with same | same <;> cases same
  · intro number space write own value sound fits answer
    cases answer
    exact fits.2.1

private theorem returned_named : executeModule tidying ⟨⟨0, 0⟩⟩ named waiting =
    (.ok (.ok (.array ⟨1, 0⟩, ⟨⟨2, 0⟩⟩)),
      (executeModule tidying ⟨⟨0, 0⟩⟩ named waiting).2) := by
  refine Prod.ext ?_ rfl
  with_unfolding_all rfl

private theorem returned_made : executeModule tidying ⟨⟨0, 0⟩⟩ made waiting =
    (.ok (.ok (.array ⟨3, 0⟩, ⟨⟨2, 0⟩⟩)),
      (executeModule tidying ⟨⟨0, 0⟩⟩ made waiting).2) := by
  refine Prod.ext ?_ rfl
  with_unfolding_all rfl

private theorem gone_made :
    (executeModule tidying ⟨⟨0, 0⟩⟩ made waiting).2.world.realm.space.contains ⟨3, 0⟩ = false := by
  decide +kernel

/-- An array that has a name stays, while the task reclaims the context of the module. An array
without a name was live as well when the program had come to its end, so that a task must have
reclaimed it. -/
theorem results_of_tidying :
    shelf.Reachable ∧ tidying.host.Honest shelf ∧ shelf.HasContext ⟨⟨0, 0⟩⟩ ∧ tidying.Orderly ∧
    (∃ last, executeModule tidying ⟨⟨0, 0⟩⟩ named waiting =
        (.ok (.ok (.array ⟨1, 0⟩, ⟨⟨2, 0⟩⟩)), last) ∧
      last.world.realm.space.contains ⟨1, 0⟩ = true ∧
      ∃ (space : Space) (extra : List Handle), space.Misses extra ⟨2, 0⟩) ∧
    ∃ last, executeModule tidying ⟨⟨0, 0⟩⟩ made waiting =
        (.ok (.ok (.array ⟨3, 0⟩, ⟨⟨2, 0⟩⟩)), last) ∧
      TaskReclaims tidying
        (evaluation tidying ⟨⟨0, 0⟩⟩ made { waiting with held := true }).2 ⟨3, 0⟩ := by
  have main := results_live_unless_task_reclaims reachable_shelf returned_named
  have stays : (executeModule tidying ⟨⟨0, 0⟩⟩ named waiting).2.world.realm.space.contains
      ⟨1, 0⟩ = true := by
    decide +kernel
  have gone : (executeModule tidying ⟨⟨0, 0⟩⟩ named waiting).2.world.realm.space.contains
      ⟨2, 0⟩ = false := by
    decide +kernel
  have reclaimed := main.2.1.resolve_left (by simp [gone])
  obtain ⟨-, -, space, extra, -, -, -, misses, -⟩ := main.2.2.2.2 orderly_tidying _ reclaimed
  have nameless := results_live_unless_task_reclaims reachable_shelf returned_made
  have lost := (nameless.2.2.1 honest_tidying ⟨_, rfl⟩ ⟨3, 0⟩ rfl).resolve_left
    (by simp [gone_made])
  exact ⟨reachable_shelf, honest_tidying, ⟨_, rfl⟩, orderly_tidying,
    ⟨_, returned_named, stays, space, extra, misses⟩, _, returned_made, lost⟩

/-- The task that waits reclaims what the program returns, before the caller gets it. -/
theorem results_reclaimed_before_return :
    shelf.Reachable ∧ shelf.HasContext ⟨⟨0, 0⟩⟩ ∧
    ∃ last, executeModule tidying ⟨⟨0, 0⟩⟩ made waiting =
        (.ok (.ok (.array ⟨3, 0⟩, ⟨⟨2, 0⟩⟩)), last) ∧
      execute tidying ⟨⟨0, 0⟩⟩ made waiting = (.ok (.ok (.array ⟨3, 0⟩)), last) ∧
      last.world.realm.space.contains ⟨3, 0⟩ = false ∧
      last.world.realm.space.contains ⟨2, 0⟩ = false := by
  refine ⟨reachable_shelf, ⟨_, rfl⟩, _, returned_made, ?_, gone_made, ?_⟩
  · rw [execute, Act.bind_apply, returned_made]
    rfl
  · decide +kernel

end Engine

end ScriptEngine
