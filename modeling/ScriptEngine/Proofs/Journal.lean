import ScriptEngine.Proofs.PermittedTrees
import ScriptEngine.Proofs.Recordings

set_option autoImplicit false

namespace ScriptEngine

inductive Note where
  /-- An assignment or update has found its place and its value, and writes. -/
  | write (place : Place) (value : Value) (site : SourceInfo)
  | hook (call : HookCall)
  /-- The body of a program or of a function has come to its end. -/
  | finish (result : Except Exit Unit)
  /-- An error has left a body that has handlers, whether one of them takes it or not. -/
  | rescue (error : ScriptError)

section

variable {σ τ α : Type}

/-- Takes down what a script writes and where, what a hook was asked and what it answered, which
errors came to handlers, and how each body came to its end. -/
def Clerk.journal : Clerk σ τ (List Note) τ where
  hook call _ notes := notes ++ [.hook call]
  write place value site notes := notes ++ [.write place value site]
  finish result notes := notes ++ [.finish result]
  rescue error notes := notes ++ [.rescue error]
  label _ task := task
  task := id
  task_label _ _ := rfl

theorem Clerk.discreet_journal : (journal : Clerk σ τ (List Note) τ).Discreet :=
  fun _ _ _ _ _ => rfl

abbrev Journaled (σ : Type) := Recorded σ (List Note)

def Journaled.note {σ : Type} (journaled : Journaled σ) (note : Note) : Journaled σ :=
  { journaled with record := journaled.record ++ [note] }

/-- An execution with a journal that is empty at first. -/
def Execution.journaled (host : Host σ τ) (classes : ClassRegistry) (fuel : Nat)
    (execution : Execution α) (state : RunState σ τ) : Except Halt α × RunState (Journaled σ) τ :=
  execution.recorded .journal host classes fuel (state.beside [])

/-- An execution with a journal ends as the execution itself does. -/
theorem Execution.forget_journaled (host : Host σ τ) (classes : ClassRegistry) (fuel : Nat)
    (execution : Execution α) (state : RunState σ τ) :
    Prod.map id Clerk.journal.forget (execution.journaled host classes fuel state) =
      execution.run host classes fuel state :=
  Clerk.forget_execution_beside rfl host classes fuel execution state []

end

namespace Manner

variable {σ τ : Type} (host : Host σ τ) {state : RunState (Journaled σ) τ}

theorem write_journal (place : Place) (value : Value) (site : SourceInfo) :
    (recorded .journal host).write place value site state =
      Eval.writePlace (host.recorded .journal) place value site
        { state with own := state.own.note (.write place value site) } :=
  rfl

theorem finish_journal (body : Run (Journaled σ) τ Exit Unit) :
    (recorded .journal host).finish body state =
      let (result, state) := body state
      (Run.bodyResult state.stack result, { state with own := state.own.note (.finish result) }) :=
  rfl

end Manner

/-- Who keeps a journal has to say only what becomes of writes, of bodies and of errors. -/
theorem Regime.approves_journal {σ τ : Type} {regime : Regime (Journaled σ)} {host : Host σ τ}
    (write : ∀ {place : Place} {value : Value} (site : SourceInfo), regime.charter.Reaches place →
      value.Within regime.charter.inside → Abides regime regime.Halts (fun _ => True)
        ((Manner.recorded .journal host).write place value site))
    (finish : ∀ {body : Run (Journaled σ) τ Exit Unit},
      Abides regime (regime.Exits false) (fun _ => True) body →
      Abides regime regime.Halts (Value.Within regime.charter.inside)
        ((Manner.recorded .journal host).finish body))
    (rescue : ∀ {error : ScriptError} {own : Journaled σ} {space : Space}, regime.law own space →
      regime.errors own error.kind → regime.law (own.note (.rescue error)) space ∧
        regime.errors (own.note (.rescue error)) error.kind) :
    regime.Approves (Manner.recorded .journal host) where
  write := write
  finish := finish
  rescue bodies handlers := Abides.rescuing bodies fun error _ level fitting =>
    handlers error _ ⟨level.upheld, (rescue level.law fitting).1⟩ (rescue level.law fitting).2
  frame frame _ before := by
    rw [Clerk.frame_recorded fun _ _ => rfl]
    exact Abides.framed frame before
  allow _ := Abides.pure trivial
  body conforms _ _ event given captured := by
    rw [Clerk.discreet_journal.body_recorded]
    exact Abides.method conforms _ event given captured

end ScriptEngine
