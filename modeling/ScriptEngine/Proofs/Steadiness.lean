import ScriptEngine.Proofs.Recordings

set_option autoImplicit false

namespace ScriptEngine

section

variable {σ τ : Type}

/-- A run that leaves the active calls as they were. -/
def Steady {ε α : Type} (run : Run σ τ ε α) : Prop := ∀ state, (run state).2.stack = state.stack

/-- A clerk with nothing to do. -/
private def idler : Clerk σ τ Unit τ where
  label _ task := task
  task := id
  task_label _ _ := rfl

namespace Steady

variable {ε α : Type} (host : Host σ τ) (classes : ClassRegistry) (fuel : Nat)

private abbrev ties (stack : CallStack) : Ties (Recorded σ Unit) τ σ τ :=
  (Clerk.Invariant.any idler).ties stack

private theorem of_accord [Faulting ε] {beside : Run (Recorded σ Unit) τ ε α} {run : Run σ τ ε α}
    (accord : ∀ stack, Accord (ties stack) 1 beside run) : Steady run := by
  intro state
  have begun : (ties state.stack).level 1 (state.beside ()) state :=
    ⟨Clerk.forget_beside rfl state (), rfl, trivial⟩
  have outcome := accord state.stack _ _ begun
  generalize beside _ = ended at outcome
  generalize run state = ended' at outcome
  cases outcome with
  | whole result states =>
    obtain ⟨rfl, same, -⟩ := states
    exact same
  | broken fault states =>
    obtain ⟨rfl, same, -⟩ := states
    exact same

theorem execution (execution : Execution α) : Steady (execution.run host classes fuel) := by
  intro state
  have begun : (Clerk.Invariant.any (idler : Clerk σ τ Unit τ)).holds 0 (state.beside ()) := trivial
  have kept := Clerk.Invariant.execution_beside _ rfl host classes fuel execution begun
  rw [← kept.same]
  exact kept.stack_eq

theorem controls (context : ContextRef) (trees : List Control) :
    Steady (Eval.controls (Eval.environment host classes fuel) context trees) :=
  of_accord fun stack => Accord.controls
    (((Clerk.Invariant.any idler).environment host classes fuel).accords stack 0) context trees

theorem setProperty (object : Value) (key : String) (value : Value) (site : SourceInfo) :
    Steady (Eval.setProperty host object key value site) :=
  of_accord fun stack => Accord.setProperty
    (((Clerk.Invariant.any idler).accords host).hook stack 0) object key value site

end Steady

end

end ScriptEngine
