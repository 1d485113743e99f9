import ScriptEngine.Proofs.Drains
import ScriptEngine.Proofs.UndisturbedObjects
import ScriptEngine.Proofs.Recordings

set_option autoImplicit false

namespace ScriptEngine

open Relation (ReflTransGen)

/-- What was seen of a space on its way from the start lies on the way, all of it during an
execution. -/
structure Space.Sighted (start : Space) (sights : List Space) (now : Space) : Prop where
  reached : ReflTransGen Step start now
  trail : (start :: sights ++ [now]).Pairwise Later
  inside : ∀ sight ∈ sights, sight.inExecution = true

namespace Space.Sighted

variable {start now : Space} {sights : List Space}

theorem begin (start : Space) : Sighted start [] start :=
  ⟨.refl, by simp [Later.refl], nofun⟩

theorem move (sighted : Sighted start sights now) {after : Space}
    (steps : ReflTransGen Step now after) (later : Later now after) :
    Sighted start sights after := by
  refine { sighted with reached := sighted.reached.trans steps, trail := ?_ }
  obtain ⟨before, -, last⟩ := List.pairwise_append.mp sighted.trail
  refine List.pairwise_append.mpr ⟨before, List.pairwise_singleton _ _, ?_⟩
  intro sight seen other found
  rw [List.mem_singleton.mp found]
  exact (last sight seen _ (List.mem_singleton.mpr rfl)).trans later

theorem see (sighted : Sighted start sights now) (busy : now.inExecution = true) :
    Sighted start (sights ++ [now]) now := by
  refine { sighted with trail := ?_, inside := ?_ }
  · have last : ∀ sight ∈ start :: sights ++ [now], Later sight now := by
      intro sight seen
      rcases List.mem_append.mp seen with earlier | here
      · exact (List.pairwise_append.mp sighted.trail).2.2 sight earlier _
          (List.mem_singleton.mpr rfl)
      · rw [List.mem_singleton.mp here]
        exact .refl _
    refine List.pairwise_append.mpr ⟨sighted.trail, List.pairwise_singleton _ _, ?_⟩
    intro sight seen other found
    rw [List.mem_singleton.mp found]
    exact last sight seen
  · intro sight seen
    rcases List.mem_append.mp seen with earlier | here
    · exact sighted.inside sight earlier
    · rw [List.mem_singleton.mp here]
      exact busy

theorem act {α : Type} (reachable : start.Reachable) (sighted : Sighted start sights now)
    (busy : now.inExecution = true) (action : SpaceAction α) :
    Sighted start (sights ++ [now]) (action.run now).2 := by
  have tidy : now.Tidy := Reachable.tidy (reachable.trans sighted.reached)
  exact (sighted.see busy).move (.single (.act action now))
    (undisturbed_run tidy busy action).later

end Space.Sighted

section Watches

variable {σ τ α : Type}

/-- Looks at the space before every step of a native body and at every hook. -/
def Clerk.watch : Clerk σ τ (List Space) τ where
  step _ space _ sights := sights ++ [space]
  hook _ space sights := sights ++ [space]
  label _ task := task
  task := id
  task_label _ _ := rfl

/-- What a watch sees lies on the way, below so many executions. -/
def Space.Reachable.watching {start : Space} (reachable : start.Reachable) :
    (Clerk.watch : Clerk σ τ (List Space) τ).Invariant where
  holds depth state := Sighted start state.own.record state.space ∧
    state.space.executions = start.executions + depth
  torn state := Sighted start state.own.record state.space
  tear holds := holds.1
  own holds _ := holds
  edit := by
    rintro depth state ⟨sighted, count⟩ space edit
    have tidy : state.space.Tidy := Reachable.tidy (reachable.trans sighted.reached)
    have after := Undisturbed.edit edit tidy.undisturbed
    exact ⟨sighted.move (.single edit.step) after.later, after.executions.trans count⟩
  enter holds := ⟨holds.1.move (.single (.enter _)) (.of_slots rfl id), congrArg (· + 1) holds.2⟩
  leave := by
    rintro depth state ⟨sighted, count⟩
    refine ⟨sighted.move (.single (.leave _)) (.of_slots rfl id), ?_⟩
    show state.space.executions - 1 = start.executions + depth
    omega
  step := by
    rintro depth state ⟨sighted, count⟩ course
    have busy : state.space.inExecution = true := by
      simp only [Space.inExecution, decide_eq_true_eq]
      omega
    cases course with
    | act action =>
      exact ⟨sighted.act reachable busy action,
        (Space.executions_run action state.space).trans count⟩
    | _ => exact ⟨sighted.see busy, count⟩
  hook := by
    rintro depth state ⟨sighted, count⟩ call
    refine ⟨sighted.see ?_, count⟩
    simp only [Space.inExecution, decide_eq_true_eq]
    omega
  write holds _ _ _ := holds
  finish holds _ := holds
  rescue holds _ := holds
  push holds _ _ _ := holds
  pop holds := holds
  finish_torn torn _ := torn
  pop_torn torn := torn

/-- What was seen during an execution lies on the way to where it has come. -/
theorem Space.Reachable.sighted {state : RunState σ τ} (reachable : state.space.Reachable)
    (host : Host σ τ) (classes : ClassRegistry) (fuel : Nat) (execution : Execution α) :
    let plain := execution.run host classes fuel state
    let watched := execution.recorded .watch host classes fuel (state.beside [])
    Prod.map id Clerk.watch.forget watched = plain ∧
      Sighted state.space watched.2.own.record plain.2.space ∧
      ((∀ fault, plain.1 ≠ .error (.fault fault)) →
        plain.2.space.executions = state.space.executions) := by
  intro plain watched
  obtain ⟨same, -, record⟩ :
      reachable.watching.Kept 0 state.stack watched plain :=
    Clerk.Invariant.execution_beside _ rfl host classes fuel execution ⟨.begin _, rfl⟩
  generalize watched = ended at same record ⊢
  clear_value plain
  subst same
  refine ⟨rfl, record.elim And.left And.right, fun whole => ?_⟩
  rcases record with holds | ⟨⟨fault, failed⟩, -⟩
  · exact holds.2
  · exact absurd failed (whole fault)

end Watches

namespace Engine

variable {σ τ : Type}

/-- Runs a program without a thought of collections. -/
def runModule (embedding : Embedding σ τ) (context : ContextRef) (program : Program) :
    EngineM σ τ (Except ScriptError (Value × ContextRef)) :=
  flatten <$> withRealm embedding
    (onWorld (World.executeModule embedding.host embedding.fuel context program))

/-- A collection that was put off comes before the next program, whatever the threshold is. The
classes and the context are further roots. -/
theorem executeModule_of_requested {embedding : Embedding σ τ} {engine : Engine σ τ}
    (free : engine.held = false)
    (requested : engine.world.realm.space.collectRequested = true) (context : ContextRef)
    (program : Program) :
    executeModule embedding context program engine = runModule embedding context program
      { engine with
        world.realm.space := (engine.world.realm.space.collect
          (engine.world.realm.classes.references ++ [context.handle])).2 } := by
  have due : engine.world.realm.collectionDue = true := by simp [Realm.collectionDue, requested]
  let extra := engine.world.realm.classes.references ++ [context.handle]
  have collected : (collectIfDue context : EngineM σ τ (Option CollectStats))
      { engine with held := true } =
        (.ok (some (engine.world.realm.space.collect extra).1),
          { engine with
            held := true
            world.realm.space := (engine.world.realm.space.collect extra).2 }) := by
    simp [collectIfDue, onRealm, modifyGet, MonadStateOf.modifyGet, Realm.maybeCollect,
      Realm.collect, due, Except.mapError, extra]
  have same : withRealm embedding (do
        let _ ← collectIfDue context
        onWorld (World.executeModule embedding.host embedding.fuel context program)) engine =
      withRealm embedding
        (onWorld (World.executeModule embedding.host embedding.fuel context program))
        { engine with world.realm.space := (engine.world.realm.space.collect extra).2 } := by
    have free' : ({ engine with
      world.realm.space := (engine.world.realm.space.collect extra).2 } : Engine σ τ).held =
        false := free
    rw [withRealm_of_free free, withRealm_of_free free', Act.bind_apply, collected]
  unfold executeModule runModule
  rw [map_eq_pure_bind, map_eq_pure_bind, Act.bind_apply, Act.bind_apply, same]

end Engine

/-- While something is executed nothing is reclaimed. A watch changes nothing about an execution,
and between any two of its sights, as from the start to the end, what was live stays live and of
its kind. Whoever asks for a collection at such a moment has it put off, which changes only the
note. An execution that comes to its end leaves the space as deep in executions as it was. The note
stays until a collection is made, and the next program to which an engine gives the realm comes
after one. -/
theorem nothing_reclaimed_while_executing {σ τ α : Type} (host : Host σ τ)
    (classes : ClassRegistry) (fuel : Nat) (execution : Execution α) (state : RunState σ τ)
    (reachable : state.space.Reachable) :
    let plain := execution.run host classes fuel state
    let watched := execution.recorded .watch host classes fuel (state.beside [])
    Prod.map id Clerk.watch.forget watched = plain ∧
    (state.space :: watched.2.own.record ++ [plain.2.space]).Pairwise Space.Later ∧
    (∀ sight ∈ watched.2.own.record, ∀ extra,
      sight.collect extra = (⟨0, 0, true⟩, { sight with collectRequested := true })) ∧
    ((∀ fault, plain.1 ≠ .error (.fault fault)) →
      plain.2.space.executions = state.space.executions) ∧
    ReflTransGen Space.Step state.space plain.2.space ∧
    (∀ before after, ReflTransGen Space.Step before after → before.collectRequested = true →
      after.collectRequested = true ∨ ∃ middle extra, ReflTransGen Space.Step before middle ∧
        (middle.collect extra).1.deferred = false ∧
        ReflTransGen Space.Step (middle.collect extra).2 after) ∧
    ∀ (embedding : Embedding σ τ) (engine : Engine σ τ) (context : ContextRef)
      (program : Program), engine.held = false →
      engine.world.realm.space.inExecution = false →
      engine.world.realm.space.collectRequested = true →
      let swept := engine.world.realm.space.collect
        (engine.world.realm.classes.references ++ [context.handle])
      swept.1.deferred = false ∧ swept.2.collectRequested = false ∧
      Engine.executeModule embedding context program engine =
        Engine.runModule embedding context program
          { engine with world.realm.space := swept.2 } ∧
      Engine.execute embedding context program engine =
        ((Except.map (·.1)) <$> Engine.runModule embedding context program)
          { engine with world.realm.space := swept.2 } := by
  intro plain watched
  obtain ⟨same, sighted, balanced⟩ := reachable.sighted host classes fuel execution
  refine ⟨same, sighted.trail, ?_, balanced, sighted.reached, ?_, ?_⟩
  · exact fun sight seen => Space.collect_deferred (sighted.inside sight seen)
  · exact fun before after => Space.requested_of_steps
  · intro embedding engine context program free idle requested swept
    have first : Engine.executeModule embedding context program engine = _ :=
      Engine.executeModule_of_requested free requested context program
    refine ⟨?_, ?_, first, ?_⟩
    · simp [swept, Space.collect, idle]
    · simp [swept, Space.collect, idle]
    · unfold Engine.execute
      rw [map_eq_pure_bind, Act.bind_apply, Act.bind_apply, first]

/-- A host whose native functions ask for a collection, make an array and ask again. -/
private def sweeping : Host Unit Empty where
  native _ _ := .act (.collect []) fun _ => .act (.allocateArray #[]) fun _ =>
    .act (.collect []) fun _ => .succeed .undefined
  hook _ _ write own := (.store write.value, own)

/-- One native function, which no root keeps. -/
private def unrooted : RunState Unit Empty :=
  ⟨((SpaceAction.allocateNative ⟨"sweep", some 0, [], .host 0⟩).run {}).2, .empty none, (), []⟩

private def sweep : Execution Value := .call (.callable ⟨0, 0⟩) [] .empty

theorem nothing_reclaimed_by_sweep :
    unrooted.space.Reachable ∧
    (sweep.recorded .watch sweeping {} 1 (unrooted.beside [])).2.own.record.length = 4 ∧
    (sweep.run sweeping {} 1 unrooted).2.space.collectRequested = true ∧
    (sweep.run sweeping {} 1 unrooted).2.space.kind? ⟨0, 0⟩ = some .native ∧
    (((sweep.run sweeping {} 1 unrooted).2.space.collect []).2.kind? ⟨0, 0⟩) = none := by
  have reachable : unrooted.space.Reachable := ReflTransGen.refl.tail (.act _ _)
  have main := nothing_reclaimed_while_executing sweeping {} 1 sweep unrooted reachable
  have last : Space.Later unrooted.space (sweep.run sweeping {} 1 unrooted).2.space :=
    (List.pairwise_cons.mp main.2.1).1 _ (List.mem_append_right _ (List.mem_singleton.mpr rfl))
  refine ⟨reachable, ?_, rfl, last.kept ⟨0, 0⟩ .native rfl, ?_⟩
  · decide +kernel
  · decide +kernel

/-- A native body that puts an array in the place of the object behind a handle, as no action on a
space does. -/
private def overwriting (handle : Handle) : Manner Unit Empty :=
  { Manner.plain sweeping with
    body := fun _ _ _ => do
      Run.ofSpace (Space.store handle (.array #[]))
      return .undefined }

/-- Asks for a collection and breaks a contract. -/
private def breaking : Host Unit Empty where
  native _ _ := .act (.collect []) fun _ => .abort .namelessKey
  hook _ _ write own := (.store write.value, own)

/-- An engine with the native function and a context, and no use for thresholds. -/
private def ready : Engine Unit Empty :=
  let opened := ((SpaceAction.newGlobal "main.js" "" '/').run unrooted.space).2
  ⟨⟨{ space := opened, config := { gcThreshold := 0 } }, (), []⟩, [], false⟩

private def around (host : Host Unit Empty) : Embedding Unit Empty := ⟨host, nofun, 3⟩

/-- Calls the native function. -/
private def asking (host : Host Unit Empty) : EngineM Unit Empty (Except ScriptError Value) :=
  Engine.onWorld (World.call host 3 (.callable ⟨0, 0⟩) [])

/-- The next program, which is empty. -/
private def next (host : Host Unit Empty) : EngineM Unit Empty (Except ScriptError Value) :=
  Engine.execute (around host) ⟨⟨1, 0⟩⟩ default

/-- A native body that may write to the space in other ways than actions do can change the kind of
an object that is live. An engine whose realm is held refuses the next program and collects nothing
for it. After an execution that a fault has cut through the collection before the next program is
put off as well. -/
theorem deferral_has_exceptions :
    (unrooted.space.kind? ⟨0, 0⟩ = some .native ∧
      (sweep.runBy (overwriting ⟨0, 0⟩) sweeping {} 1 unrooted).1.isOk = true ∧
      (sweep.runBy (overwriting ⟨0, 0⟩) sweeping {} 1 unrooted).2.space.kind? ⟨0, 0⟩ =
        some .array) ∧
    (∃ last, Engine.withRealm (around sweeping) (asking sweeping >>= fun _ => next sweeping) ready =
        (.ok (.ok (.error Engine.busy)), last) ∧
      last.world.realm.space.collectRequested = true) ∧
    ∃ broken value last,
      Engine.withRealm (around breaking) (asking breaking) ready =
        (.error (.fault .namelessKey), broken) ∧
      next breaking broken = (.ok (.ok value), last) ∧
      broken.world.realm.space.collectRequested = true ∧
      last.world.realm.space.collectRequested = true := by
  refine ⟨⟨rfl, rfl, rfl⟩, ⟨_, rfl, rfl⟩, _, _, _, rfl, rfl, rfl, rfl⟩

end ScriptEngine
