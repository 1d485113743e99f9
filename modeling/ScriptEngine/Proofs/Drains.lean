import ScriptEngine.Engine
import ScriptEngine.Proofs.Lockstep

set_option autoImplicit false

namespace ScriptEngine

namespace Engine

variable {σ τ α : Type} {embedding : Embedding σ τ} {engine : Engine σ τ}

private theorem queue_of_drainWithin {bound : Nat} {last : Engine σ τ}
    (drained : drainWithin embedding bound engine = (.ok (), last)) : last.world.queue = [] := by
  induction bound generalizing engine with
  | zero => cases drained
  | succ bound ih =>
    unfold drainWithin at drained
    split at drained
    · next empty =>
      cases drained
      exact empty
    · split at drained
      · exact ih drained
      · cases drained

theorem queue_of_drain {last : Engine σ τ} (drained : drain embedding engine = (.ok (), last)) :
    last.world.queue = [] :=
  queue_of_drainWithin drained

theorem drain_of_quiet (embedding : Embedding σ τ) (quiet : engine.world.queue = []) :
    drain embedding engine =
      (if embedding.fuel = 0 then .error .outOfFuel else .ok (), engine) := by
  unfold drain
  cases embedding.fuel with
  | zero => rfl
  | succ bound =>
    unfold drainWithin
    rw [quiet]
    rfl

theorem kick_of_quiet (quiet : engine.world.queue = []) :
    kick embedding engine = (.ok (), engine) := by
  simp [kick, quiet]

theorem kick_of_held (held : engine.held = true) : kick embedding engine = (.ok (), engine) := by
  simp [kick, held]

/-- Once the tasks have run there is nothing left to look for. -/
theorem taking_eq (body : EngineM σ τ α) (engine : Engine σ τ) :
    taking embedding body engine =
      match body { engine with held := true } with
      | (.ok value, middle) =>
        match drain embedding middle with
        | (.ok _, last) => (.ok value, { last with held := false })
        | (.error abort, last) => (.error abort, { last with held := false })
      | (.error abort, last) => (.error abort, { last with held := false }) := by
  unfold taking
  rw [Act.bind_apply]
  simp only [holding, Act.bind_apply]
  rcases body { engine with held := true } with ⟨abort | value, middle⟩
  · rfl
  · dsimp only
    cases drained : drain embedding middle with
    | mk result last =>
      cases result with
      | error abort => rfl
      | ok _ =>
        have quiet : last.world.queue = [] := queue_of_drain drained
        have looked : kick embedding { last with held := false } =
            (.ok (), { last with held := false }) := kick_of_quiet quiet
        simp only [pure, Act.pure, looked]

theorem isOk_of_taking (embedding : Embedding σ τ) {body : EngineM σ τ α}
    (ok : (taking embedding body engine).1.isOk = true) :
    (body { engine with held := true }).1.isOk = true := by
  rw [taking_eq] at ok
  generalize body { engine with held := true } = ended at ok
  rcases ended with ⟨abort | value, middle⟩
  · exact ok
  · rfl

theorem withRealm_of_held (held : engine.held = true) (body : EngineM σ τ α) :
    withRealm embedding body engine = (.ok (.error busy), engine) := by
  simp [withRealm, held]

theorem withRealm_eq_taking (free : engine.held = false) (body : EngineM σ τ α) :
    withRealm embedding body engine = (Except.ok <$> taking embedding body) engine := by
  simp [withRealm, free]

/-- A call that gets the realm runs the tasks that came up meanwhile and lets go. -/
theorem withRealm_of_free (free : engine.held = false) (body : EngineM σ τ α) :
    withRealm embedding body engine =
      match body { engine with held := true } with
      | (.ok value, middle) =>
        match drain embedding middle with
        | (.ok _, last) => (.ok (.ok value), { last with held := false })
        | (.error abort, last) => (.error abort, { last with held := false })
      | (.error abort, last) => (.error abort, { last with held := false }) := by
  rw [withRealm_eq_taking free, Act.map_apply, taking_eq]
  rcases body { engine with held := true } with ⟨abort | value, middle⟩
  · rfl
  · dsimp only
    rcases drain embedding middle with ⟨abort | _, last⟩ <;> rfl

/-- Brings a task, from the thread of the holder or from another one. -/
def accumulateFrom (elsewhere : Bool) (embedding : Embedding σ τ) (task : τ) :
    EngineM σ τ Accumulated :=
  if elsewhere then accumulateElsewhere embedding task else accumulate embedding task

theorem accumulateFrom_of_held (elsewhere : Bool) (held : engine.held = true) (task : τ) :
    accumulateFrom elsewhere embedding task engine = (.ok .queued, engine.enqueue task) := by
  cases elsewhere with
  | false => simp [accumulateFrom, accumulate, held]
  | true =>
    have still : (engine.enqueue task).held = true := held
    simp [accumulateFrom, accumulateElsewhere, held, Act.map_apply, kick_of_held still, Except.map]

/-- A task that gets the realm is run after those that wait. -/
theorem accumulateFrom_of_free (elsewhere : Bool) (free : engine.held = false) (task : τ) :
    accumulateFrom elsewhere embedding task engine =
      taking embedding (do
        drain embedding
        runTask embedding task
        return .ran) engine := by
  cases elsewhere with
  | false => simp [accumulateFrom, accumulate, free]
  | true => simp [accumulateFrom, accumulateElsewhere, accumulate, free]

end Engine

end ScriptEngine
