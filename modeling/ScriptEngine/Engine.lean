import ScriptEngine.Realm

set_option autoImplicit false

namespace ScriptEngine

/-- Why an engine call did not come to its end: a broken contract, a lack of fuel, or a host that
gave up in the middle. -/
inductive Abort where
  | fault (fault : Fault)
  | outOfFuel
  | panicked

/-- A realm that one caller holds at a time, and a queue of tasks. Whoever holds the realm runs the
tasks that were queued meanwhile before letting go of it. A call that comes while the realm is held
does not wait: tasks are queued, and everything else is refused. -/
structure Engine (σ τ : Type) where
  world : World σ τ
  /-- Errors of tasks that have not been asked for yet, in the order of the tasks. -/
  taskErrors : List ScriptError
  /-- Some call holds the realm. -/
  held : Bool

abbrev EngineM (σ τ α : Type) := Act (Engine σ τ) Abort α

/-- The program around an engine: its host, what its tasks do, and the fuel that it grants. A task
runs while the realm is held and may make engine calls of its own. -/
structure Embedding (σ τ : Type) : Type 1 where
  host : Host σ τ
  perform : τ → EngineM σ τ (Except ScriptError Unit)
  fuel : Nat

inductive Accumulated where
  | ran
  | queued
deriving DecidableEq, Repr

namespace Engine

variable {σ τ α : Type}

def new (config : Config) (own : σ) : Engine σ τ :=
  ⟨⟨.ofConfig config, own, []⟩, [], false⟩

/-- Runs something in the world of the engine. Errors become answers. -/
@[always_inline, inline]
def onWorld (body : WorldM σ τ α) : EngineM σ τ (Except ScriptError α) := fun engine =>
  match engine with
  | ⟨world, taskErrors, held⟩ =>
    match body world with
    | (.ok value, world) => (.ok (.ok value), ⟨world, taskErrors, held⟩)
    | (.error (.raised error), world) => (.ok (.error error), ⟨world, taskErrors, held⟩)
    | (.error (.fault fault), world) => (.error (.fault fault), ⟨world, taskErrors, held⟩)
    | (.error .outOfFuel, world) => (.error .outOfFuel, ⟨world, taskErrors, held⟩)

@[always_inline, inline]
def onRealm (operation : RealmM α) : EngineM σ τ α := fun engine =>
  match engine with
  | ⟨⟨realm, own, queue⟩, taskErrors, held⟩ =>
    let (result, realm) := operation realm
    (result.mapError .fault, ⟨⟨realm, own, queue⟩, taskErrors, held⟩)

@[always_inline, inline]
def onSpace (operation : SpaceM α) : EngineM σ τ α := onRealm (Realm.onSpace operation)

def enqueue (task : τ) (engine : Engine σ τ) : Engine σ τ :=
  { engine with world := { engine.world with queue := engine.world.queue ++ [task] } }

/-- Runs a task. Its error is kept for later. -/
def runTask (embedding : Embedding σ τ) (task : τ) : EngineM σ τ Unit := do
  match ← embedding.perform task with
  | .ok _ => return
  | .error error =>
    modify fun engine => { engine with taskErrors := engine.taskErrors ++ [error] }

/-- Runs queued tasks, the oldest first, until none is left. -/
def drainWithin (embedding : Embedding σ τ) : Nat → Engine σ τ → Except Abort Unit × Engine σ τ
  | 0, engine => (.error .outOfFuel, engine)
  | bound + 1, engine =>
    match engine.world.queue with
    | [] => (.ok (), engine)
    | task :: rest =>
      match runTask embedding task { engine with world := { engine.world with queue := rest } } with
      | (.ok _, engine) => drainWithin embedding bound engine
      | (.error abort, engine) => (.error abort, engine)

def drain (embedding : Embedding σ τ) : EngineM σ τ Unit := drainWithin embedding embedding.fuel

/-- Holds the realm while `body` runs, and lets go of it however `body` ends. -/
def holding (body : EngineM σ τ α) : EngineM σ τ α := fun engine =>
  let (result, engine) := body { engine with held := true }
  (result, { engine with held := false })

/-- Runs what was queued since the realm was let go. If somebody holds it by now, the tasks are
left to the holder. -/
def kick (embedding : Embedding σ τ) : EngineM σ τ Unit := fun engine =>
  if engine.held || engine.world.queue.isEmpty then (.ok (), engine)
  else holding (drain embedding) engine

/-- Takes the realm for `body` and for the tasks that are queued after it, lets go of it and looks
again. A host that gives up in the middle leaves its tasks in the queue. -/
def taking (embedding : Embedding σ τ) (body : EngineM σ τ α) : EngineM σ τ α := do
  let value ← holding do
    let value ← body
    drain embedding
    return value
  kick embedding
  return value

def busy : ScriptError := .ofKind .engineBusy

/-- Gives `body` the realm. A realm that is held cannot be given. -/
def withRealm (embedding : Embedding σ τ) (body : EngineM σ τ α) :
    EngineM σ τ (Except ScriptError α) := fun engine =>
  if engine.held then (.ok (.error busy), engine)
  else (Except.ok <$> taking embedding body) engine

def flatten : Except ScriptError (Except ScriptError α) → Except ScriptError α
  | .ok result => result
  | .error error => .error error

/-- Collects if a collection is due, with a context as a further root. -/
def collectIfDue (context : ContextRef) : EngineM σ τ (Option CollectStats) :=
  onRealm (modifyGet (·.maybeCollect [context.handle]))

/-- Runs a program in a new context below `context`, after a collection if one is due. -/
def executeModule (embedding : Embedding σ τ) (context : ContextRef) (program : Program) :
    EngineM σ τ (Except ScriptError (Value × ContextRef)) :=
  flatten <$> withRealm embedding do
    let _ ← collectIfDue context
    onWorld (World.executeModule embedding.host embedding.fuel context program)

def execute (embedding : Embedding σ τ) (context : ContextRef) (program : Program) :
    EngineM σ τ (Except ScriptError Value) :=
  return (← executeModule embedding context program).map (·.1)

/-- Runs a task at once if the realm is free, after the tasks that came before it and before those
that it queues itself. Otherwise the task waits for the holder. -/
def accumulate (embedding : Embedding σ τ) (task : τ) : EngineM σ τ Accumulated := fun engine =>
  if engine.held then (.ok .queued, engine.enqueue task)
  else
    taking embedding (do
      drain embedding
      runTask embedding task
      return .ran) engine

/-- The same from another thread than the holder's. Such a caller does not know how long the realm
stays held, so it looks again once the task is queued. -/
def accumulateElsewhere (embedding : Embedding σ τ) (task : τ) : EngineM σ τ Accumulated :=
  fun engine =>
    if engine.held then ((fun _ => .queued) <$> kick embedding) (engine.enqueue task)
    else accumulate embedding task engine

def collect (embedding : Embedding σ τ) : EngineM σ τ (Except ScriptError CollectStats) :=
  withRealm embedding do
    drain embedding
    onRealm (modifyGet (·.collect []))

def pendingTasks (engine : Engine σ τ) : Nat := engine.world.queue.length

/-- The errors of tasks since the last time they were asked for. -/
def takeTaskErrors (engine : Engine σ τ) : List ScriptError × Engine σ τ :=
  (engine.taskErrors, { engine with taskErrors := [] })

end Engine

end ScriptEngine
