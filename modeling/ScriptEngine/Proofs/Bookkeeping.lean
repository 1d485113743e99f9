import ScriptEngine.Proofs.Drains
import ScriptEngine.Proofs.Ledger
import ScriptEngine.Proofs.Recordings

set_option autoImplicit false

namespace ScriptEngine

structure Ticket (τ : Type) where
  number : Nat
  task : τ

def numbers {τ : Type} (queue : List (Ticket τ)) : List Nat := queue.map Ticket.number

theorem numbers_concat {τ : Type} (queue : List (Ticket τ)) (ticket : Ticket τ) :
    numbers (queue ++ [ticket]) = numbers queue ++ [ticket.number] :=
  List.map_append

/-- How many tasks have been brought, and what has happened to them. -/
structure Books where
  issued : Nat := 0
  history : List Event := []

namespace Books

def note (event : Event) (books : Books) : Books :=
  { books with history := books.history ++ [event] }

def issue (late : Bool) (books : Books) : Books :=
  { books.note (.called books.issued late) with issued := books.issued + 1 }

end Books

section

variable {σ τ : Type}

/-- Numbers the tasks that native bodies bring, and takes down what these bodies see of the queue.
The realm is held while they run, so that their tasks are queued. -/
def Clerk.ticketing : Clerk σ τ Books (Ticket τ) where
  step course _ waiting books :=
    match course with
    | .look _ => books.note (.sawQueue (numbers waiting))
    | .queue _ _ => (books.issue false).note (.accumulated books.issued)
    | _ => books
  label books task := ⟨books.issued, task⟩
  task := Ticket.task
  task_label _ _ := rfl

/-- The same host with books. -/
def Host.ticketed (host : Host σ τ) : Host (Recorded σ Books) (Ticket τ) :=
  host.recorded .ticketing

theorem Clerk.discreet_ticketing : (ticketing : Clerk σ τ Books (Ticket τ)).Discreet := by
  intro course _ _ _ unseen unqueued
  cases course with
  | look next => exact absurd rfl (unseen next)
  | queue task next => exact absurd rfl (unqueued task next)
  | finish | abort | act | write | change | call | trigger | execute => rfl

theorem Execution.run_ticketed {α : Type} (host : Host σ τ) (classes : ClassRegistry) (fuel : Nat)
    (execution : Execution α) : execution.run host.ticketed classes fuel =
      execution.recorded .ticketing host classes fuel := by
  rw [recorded, Clerk.discreet_ticketing.recorded_eq_plain (fun _ _ _ _ => rfl) (fun _ _ => rfl)
    (fun _ _ => rfl) (fun _ _ => rfl), runBy_plain, Host.ticketed]

/-- Books change nothing about an execution. -/
theorem Execution.forget_ticketed {α : Type} (host : Host σ τ) (classes : ClassRegistry)
    (fuel : Nat) (execution : Execution α) (state : RunState (Recorded σ Books) (Ticket τ)) :
    Prod.map id Clerk.ticketing.forget (execution.run host.ticketed classes fuel state) =
      execution.run host classes fuel (Clerk.ticketing.forget state) := by
  rw [run_ticketed, Clerk.forget_execution]

end

/-- An engine whose host keeps books. -/
abbrev Counted (σ τ : Type) := Engine (Recorded σ Books) (Ticket τ)

abbrev CountedM (σ τ α : Type) := EngineM (Recorded σ Books) (Ticket τ) α

namespace Engine

variable {σ τ α : Type}

def noting (event : Event) (engine : Counted σ τ) : Counted σ τ :=
  { engine with world.own.record := engine.world.own.record.note event }

def issuing (late : Bool) (engine : Counted σ τ) : Counted σ τ :=
  { engine with world.own.record := engine.world.own.record.issue late }

/-- Looks around, above all at the queue and at the errors. -/
def look : CountedM σ τ (Counted σ τ) := fun engine =>
  (.ok engine,
    (engine.noting (.sawQueue (numbers engine.world.queue))).noting (.sawErrors engine.taskErrors))

def takeErrors : CountedM σ τ (List ScriptError) := fun engine =>
  let (errors, taken) := engine.takeTaskErrors
  (.ok errors, (taken.noting (.sawErrors errors)).noting .took)

def change (update : σ → σ) : CountedM σ τ Unit := fun engine =>
  (.ok (), { engine with world.own.own := update engine.world.own.own })

def failure : Except Abort (Except ScriptError Unit) → Option ScriptError
  | .ok (.error error) => some error
  | _ => none

/-- Writes down when a task begins and when it ends. -/
def performing (number : Nat) (body : CountedM σ τ (Except ScriptError Unit)) :
    CountedM σ τ (Except ScriptError Unit) := fun engine =>
  let (result, engine) := body (engine.noting (.begun number))
  (result, engine.noting (.ended number (failure result)))

/-- The program around an engine whose tasks do what `code` says. -/
def counting (host : Host σ τ) (code : τ → CountedM σ τ (Except ScriptError Unit)) (fuel : Nat) :
    Embedding (Recorded σ Books) (Ticket τ) where
  host := host.ticketed
  perform ticket := performing ticket.number (code ticket.task)
  fuel

def bring (embedding : Embedding (Recorded σ Books) (Ticket τ)) (elsewhere : Bool) (task : τ) :
    CountedM σ τ Accumulated := fun engine =>
  let number := engine.world.own.record.issued
  let late := !engine.held && !engine.world.queue.isEmpty
  match accumulateFrom elsewhere embedding ⟨number, task⟩ (engine.issuing late) with
  | (.ok answer, engine) => (.ok answer, engine.noting (.accumulated number))
  | (.error abort, engine) => (.error abort, engine)

section Collections

variable {σ τ : Type}

/-- Runs a program with something done as the collection before it might begin. -/
def executeModuleAfter (first : EngineM σ τ Unit) (embedding : Embedding σ τ)
    (context : ContextRef) (program : Program) :
    EngineM σ τ (Except ScriptError (Value × ContextRef)) :=
  flatten <$> withRealm embedding do
    first
    let _ ← collectIfDue context
    onWorld (World.executeModule embedding.host embedding.fuel context program)

def executeAfter (first : EngineM σ τ Unit) (embedding : Embedding σ τ) (context : ContextRef)
    (program : Program) : EngineM σ τ (Except ScriptError Value) :=
  return (← executeModuleAfter first embedding context program).map (·.1)

/-- Collects with something done as the collection begins. -/
def collectAfter (first : EngineM σ τ Unit) (embedding : Embedding σ τ) :
    EngineM σ τ (Except ScriptError CollectStats) :=
  withRealm embedding do
    drain embedding
    first
    onRealm (modifyGet (·.collect []))

end Collections

/-- Remarks that a collection begins, if one does that is not put off, or says nothing at all. -/
def remark (aloud forced : Bool) (collected : Realm → Option CollectStats) :
    CountedM σ τ Unit := fun engine =>
  if aloud && (collected engine.world.realm).any (!·.deferred) then
    (.ok (), engine.noting (.collecting forced (numbers engine.world.queue)))
  else (.ok (), engine)

def remarkDue (aloud : Bool) (context : ContextRef) : CountedM σ τ Unit :=
  remark aloud false fun realm => (realm.maybeCollect [context.handle]).1

def remarkForced (aloud : Bool) : CountedM σ τ Unit :=
  remark aloud true fun realm => some (realm.collect []).1

end Engine

/-- What closures and tasks do while the realm is held: they use the realm, execute scripts, look
around, give up, and call the engine as everybody does. The engine runs programs and collects with
the realm, so that such calls are among these. Native bodies may bring tasks as well, but hooks are
not given an engine here: a program could make one that captures its engine and brings tasks, and
runs with such hooks are left out. -/
inductive Routine {σ τ : Type} (host : Host σ τ) (fuel : Nat) :
    {α : Type} → CountedM σ τ α → Prop where
  | pure {α : Type} (value : α) : Routine host fuel (pure value)
  | bind {α β : Type} {first : CountedM σ τ α} {next : α → CountedM σ τ β}
      (now : Routine host fuel first) (rest : ∀ value, Routine host fuel (next value)) :
      Routine host fuel (first >>= next)
  | panic {α : Type} : Routine host fuel (throw .panicked : CountedM σ τ α)
  | onRealm {α : Type} (operation : RealmM α) : Routine host fuel (Engine.onRealm operation)
  | execution {α : Type} (stack : Realm → CallStack) (execution : Execution α) :
      Routine host fuel (Engine.onWorld fun world => World.run (stack world.realm)
        (fun classes => execution.run host.ticketed classes fuel) world)
  | write (object : Value) (key : String) (value : Value) (site : SourceInfo) :
      Routine host fuel (Engine.onWorld (World.setProperty host.ticketed object key value site))
  | change (update : σ → σ) : Routine host fuel (Engine.change update)
  | look : Routine host fuel Engine.look
  | takeErrors : Routine host fuel Engine.takeErrors
  | withRealm {α : Type} (embedding : Embedding (Recorded σ Books) (Ticket τ))
      (body : CountedM σ τ α) : Routine host fuel (Engine.withRealm embedding body)
  | bring (embedding : Embedding (Recorded σ Books) (Ticket τ)) (elsewhere : Bool) (task : τ) :
      Routine host fuel (Engine.bring embedding elsewhere task)

inductive Call {σ τ : Type} (host : Host σ τ) (fuel : Nat) : Type 1 where
  | withRealm {α : Type} (body : CountedM σ τ α) (routine : Routine host fuel body)
  | execute (context : ContextRef) (program : Program)
  | executeModule (context : ContextRef) (program : Program)
  | collect
  | accumulate (elsewhere : Bool) (task : τ)

variable {σ τ : Type}

/-- Makes a call. Without remarks on collections it is the call of the engine itself. -/
def Call.run {host : Host σ τ} {fuel : Nat} (aloud : Bool)
    (embedding : Embedding (Recorded σ Books) (Ticket τ)) : Call host fuel → CountedM σ τ Unit
  | .withRealm body _ => (fun _ => ()) <$> Engine.withRealm embedding body
  | .execute context program => (fun _ => ()) <$>
    Engine.executeAfter (Engine.remarkDue aloud context) embedding context program
  | .executeModule context program => (fun _ => ()) <$>
    Engine.executeModuleAfter (Engine.remarkDue aloud context) embedding context program
  | .collect => (fun _ => ()) <$> Engine.collectAfter (Engine.remarkForced aloud) embedding
  | .accumulate elsewhere task => (fun _ => ()) <$> Engine.bring embedding elsewhere task

def Call.bare {host : Host σ τ} {fuel : Nat} (embedding : Embedding (Recorded σ Books) (Ticket τ)) :
    Call host fuel → CountedM σ τ Unit
  | .withRealm body _ => (fun _ => ()) <$> Engine.withRealm embedding body
  | .execute context program => (fun _ => ()) <$> Engine.execute embedding context program
  | .executeModule context program =>
    (fun _ => ()) <$> Engine.executeModule embedding context program
  | .collect => (fun _ => ()) <$> Engine.collect embedding
  | .accumulate elsewhere task => (fun _ => ()) <$> Engine.bring embedding elsewhere task

theorem Call.run_false {host : Host σ τ} {fuel : Nat}
    (embedding : Embedding (Recorded σ Books) (Ticket τ)) (call : Call host fuel) :
    call.run false embedding = call.bare embedding := by
  cases call <;> rfl

/-- Makes a call from outside and writes down how it came to its end. -/
def Call.made {host : Host σ τ} {fuel : Nat} (aloud : Bool)
    (embedding : Embedding (Recorded σ Books) (Ticket τ)) (call : Call host fuel)
    (engine : Counted σ τ) : Counted σ τ :=
  let (result, engine) := call.run aloud embedding engine
  engine.noting (.returned !result.isOk)

/-- An engine after some calls from outside, with looks and changes in between. -/
inductive Reached (host : Host σ τ) (code : τ → CountedM σ τ (Except ScriptError Unit))
    (fuel : Nat) (aloud : Bool) (config : Config) (own : σ) : Counted σ τ → Prop where
  | start : Reached host code fuel aloud config own (.new config ⟨own, {}⟩)
  | call {engine : Counted σ τ} (reached : Reached host code fuel aloud config own engine)
      (call : Call host fuel) : Reached host code fuel aloud config own
        (call.made aloud (Engine.counting host code fuel) engine)
  | look {engine : Counted σ τ} (reached : Reached host code fuel aloud config own engine) :
      Reached host code fuel aloud config own (Engine.look engine).2
  | takeErrors {engine : Counted σ τ} (reached : Reached host code fuel aloud config own engine) :
      Reached host code fuel aloud config own (Engine.takeErrors engine).2
  | change {engine : Counted σ τ} (reached : Reached host code fuel aloud config own engine)
      (update : σ → σ) : Reached host code fuel aloud config own (Engine.change update engine).2

end ScriptEngine
