import ScriptEngine.Proofs.SpaceEdits

set_option autoImplicit false

namespace ScriptEngine

/-- Early ends, with the faults among them. -/
class Faulting (ε : Type) where
  IsFault : ε → Prop

instance : Faulting Halt := ⟨fun halt => ∃ fault, halt = .fault fault⟩

instance : Faulting Exit := ⟨fun exit => ∃ fault, exit = .halted (.fault fault)⟩

/-- How the states of two runs belong together: below so many executions, and after a fault. -/
structure Ties (σ τ σ' τ' : Type) where
  level : Nat → RunState σ τ → RunState σ' τ' → Prop
  torn : RunState σ τ → RunState σ' τ' → Prop
  space_eq : ∀ {depth left right}, level depth left right → left.space = right.space
  stack_eq : ∀ {depth left right}, level depth left right → left.stack = right.stack
  edit : ∀ {depth left right}, level depth left right → ∀ {space}, Space.Edit left.space space →
    level depth { left with space } { right with space }
  enter : ∀ {depth left right}, level depth left right →
    level (depth + 1) { left with space := left.space.enterExecution }
      { right with space := right.space.enterExecution }
  leave : ∀ {depth left right}, level (depth + 1) left right →
    level depth { left with space := left.space.leaveExecution }
      { right with space := right.space.leaveExecution }
  tear : ∀ {depth left right}, level depth left right → torn left right

section

variable {σ τ σ' τ' : Type}

/-- Two runs that have ended in the same way. -/
inductive Accordant {ε α : Type} [Faulting ε] (ties : Ties σ τ σ' τ') (depth : Nat) :
    Except ε α × RunState σ τ → Except ε α × RunState σ' τ' → Prop where
  | whole {left : RunState σ τ} {right : RunState σ' τ'} (result : Except ε α)
      (states : ties.level depth left right) : Accordant ties depth (result, left) (result, right)
  | broken {left : RunState σ τ} {right : RunState σ' τ'} {reason : ε}
      (fault : Faulting.IsFault reason) (states : ties.torn left right) :
      Accordant ties depth (.error reason, left) (.error reason, right)

/-- From states that belong together both runs end in the same way. -/
def Accord {ε α : Type} [Faulting ε] (ties : Ties σ τ σ' τ') (depth : Nat) (first : Run σ τ ε α)
    (second : Run σ' τ' ε α) : Prop :=
  ∀ left right, ties.level depth left right → Accordant ties depth (first left) (second right)

theorem Ties.edited {ties : Ties σ τ σ' τ'} {depth : Nat} {left : RunState σ τ}
    {right : RunState σ' τ'} (states : ties.level depth left right) {space : Space}
    (edited : Space.Edited left.space space) :
    ties.level depth { left with space } { right with space } := by
  induction edited with
  | refl =>
    have same := ties.space_eq states
    obtain ⟨space, stack, own, queue⟩ := right
    dsimp only at same
    subst same
    exact states
  | tail _ edit ih => exact ties.edit ih edit

end

namespace Accord

variable {σ τ σ' τ' α β ε ε' : Type} {ties : Ties σ τ σ' τ'} {depth : Nat}

theorem pure [Faulting ε] (value : α) :
    Accord ties depth (pure value : Run σ τ ε α) (pure value : Run σ' τ' ε α) :=
  fun _ _ states => .whole (.ok value) states

theorem throw [Faulting ε] (reason : ε) :
    Accord ties depth (throw reason : Run σ τ ε α) (throw reason : Run σ' τ' ε α) :=
  fun _ _ states => .whole (.error reason) states

theorem bind [Faulting ε] {first : Run σ τ ε α} {second : Run σ' τ' ε α}
    {next : α → Run σ τ ε β} {next' : α → Run σ' τ' ε β} (both : Accord ties depth first second)
    (rest : ∀ value, Accord ties depth (next value) (next' value)) :
    Accord ties depth (first >>= next) (second >>= next') := by
  intro left right states
  have outcome := both left right states
  rw [Act.bind_apply, Act.bind_apply]
  generalize first left = ended at outcome
  generalize second right = ended' at outcome
  cases outcome with
  | broken fault torn => exact .broken fault torn
  | whole result states' =>
    cases result with
    | ok value => exact rest value _ _ states'
    | error reason => exact .whole (.error reason) states'

theorem map [Faulting ε] {first : Run σ τ ε α} {second : Run σ' τ' ε α} (change : α → β)
    (both : Accord ties depth first second) :
    Accord ties depth (change <$> first) (change <$> second) := by
  rw [map_eq_pure_bind, map_eq_pure_bind]
  exact both.bind fun value => pure (change value)

theorem mapError [Faulting ε] [Faulting ε'] {change : ε → ε'}
    (faults : ∀ reason, Faulting.IsFault reason → Faulting.IsFault (change reason))
    {first : Run σ τ ε α} {second : Run σ' τ' ε α} (both : Accord ties depth first second) :
    Accord ties depth (Act.mapError change first) (Act.mapError change second) := by
  intro left right states
  have outcome := both left right states
  simp only [Act.mapError]
  generalize first left = ended at outcome
  generalize second right = ended' at outcome
  cases outcome with
  | broken fault torn => exact .broken (faults _ fault) torn
  | whole result states' => exact .whole _ states'

theorem askSpace (question : Space → Except Fault α) :
    Accord ties depth (Run.askSpace question : Run σ τ Halt α)
      (Run.askSpace question : Run σ' τ' Halt α) := by
  intro left right states
  simp only [Run.askSpace, ← ties.space_eq states]
  exact .whole _ states

theorem ofSpace {operation : SpaceM α} (edits : Space.Edits operation) :
    Accord ties depth (Run.ofSpace operation : Run σ τ Halt α)
      (Run.ofSpace operation : Run σ' τ' Halt α) := by
  intro left right states
  simp only [Run.ofSpace, ← ties.space_eq states]
  exact .whole _ (Ties.edited states (edits.edited left.space))

theorem lift {first : Run σ τ Halt α} {second : Run σ' τ' Halt α}
    (both : Accord ties depth first second) :
    Accord ties depth (Run.lift first) (Run.lift second) := by
  refine mapError (fun halt isFault => ?_) both
  obtain ⟨fault, rfl⟩ := isFault
  exact ⟨fault, rfl⟩

theorem onSpace {operation : SpaceM α} (edits : Space.Edits operation) :
    Accord ties depth (Eval.onSpace operation : Run σ τ Exit α)
      (Eval.onSpace operation : Run σ' τ' Exit α) :=
  lift (ofSpace edits)

theorem raise (error : ScriptError) :
    Accord ties depth (Run.raise error : Run σ τ Halt α) (Run.raise error : Run σ' τ' Halt α) :=
  throw _

theorem orRaise (result : Except ScriptError α) :
    Accord ties depth (Run.orRaise result : Run σ τ Halt α)
      (Run.orRaise result : Run σ' τ' Halt α) := by
  cases result with
  | ok value => exact pure value
  | error error => exact raise error

theorem located (site : SourceInfo) {first : Run σ τ Exit α} {second : Run σ' τ' Exit α}
    (both : Accord ties depth first second) :
    Accord ties depth (Run.located site first) (Run.located site second) := by
  refine mapError (fun exit isFault => ?_) both
  obtain ⟨fault, rfl⟩ := isFault
  exact ⟨fault, rfl⟩

/-- An execution that comes to its end is left again. One that a fault cuts through is not. -/
theorem executing {first : Run σ τ Halt α} {second : Run σ' τ' Halt α}
    (both : Accord ties (depth + 1) first second) :
    Accord ties depth (Run.executing first) (Run.executing second) := by
  intro left right states
  have outcome := both _ _ (ties.enter states)
  simp only [Run.executing]
  generalize first _ = ended at outcome
  generalize second _ = ended' at outcome
  cases outcome with
  | broken isFault torn =>
    obtain ⟨fault, rfl⟩ := isFault
    exact .broken ⟨fault, rfl⟩ torn
  | whole result states' =>
    rcases result with (error | fault | _) | value
    · exact .whole _ (ties.leave states')
    · exact .broken ⟨fault, rfl⟩ (ties.tear states')
    · exact .whole _ (ties.leave states')
    · exact .whole _ (ties.leave states')

theorem finishing {first : Run σ τ Exit Unit} {second : Run σ' τ' Exit Unit}
    (both : Accord ties depth first second) :
    Accord ties depth (Run.finishing first) (Run.finishing second) := by
  intro left right states
  have outcome := both left right states
  simp only [Run.finishing]
  generalize first left = ended at outcome
  generalize second right = ended' at outcome
  cases outcome with
  | broken isFault torn =>
    obtain ⟨fault, rfl⟩ := isFault
    exact .broken ⟨fault, rfl⟩ torn
  | whole result states' =>
    rw [ties.stack_eq states']
    exact .whole _ states'

theorem rescuing {first : Run σ τ Exit Unit} {second : Run σ' τ' Exit Unit}
    {handler : ScriptError → Run σ τ Exit Unit} {handler' : ScriptError → Run σ' τ' Exit Unit}
    (both : Accord ties depth first second)
    (handlers : ∀ error, Accord ties depth (handler error) (handler' error)) :
    Accord ties depth (Run.rescuing first handler) (Run.rescuing second handler') := by
  intro left right states
  have outcome := both left right states
  simp only [Run.rescuing]
  generalize first left = ended at outcome
  generalize second right = ended' at outcome
  cases outcome with
  | broken isFault torn =>
    obtain ⟨fault, rfl⟩ := isFault
    exact .broken ⟨fault, rfl⟩ torn
  | whole result states' =>
    rcases result with (direction | value | error | fault | _) | _
    · exact .whole _ states'
    · exact .whole _ states'
    · exact handlers error _ _ states'
    · exact .whole _ states'
    · exact .whole _ states'
    · exact .whole _ states'

theorem answered {first : Run σ τ Halt α} {second : Run σ' τ' Halt α}
    (both : Accord ties depth first second) {next : Except ScriptError α → Run σ τ Halt β}
    {next' : Except ScriptError α → Run σ' τ' Halt β}
    (rest : ∀ result, Accord ties depth (next result) (next' result)) :
    Accord ties depth (Eval.answered first next) (Eval.answered second next') := by
  intro left right states
  have outcome := both left right states
  unfold Eval.answered
  generalize first left = ended at outcome
  generalize second right = ended' at outcome
  cases outcome with
  | broken isFault torn =>
    obtain ⟨fault, rfl⟩ := isFault
    exact .broken ⟨fault, rfl⟩ torn
  | whole result states' =>
    rcases result with (error | fault | _) | value
    · exact rest (.error error) _ _ states'
    · exact .whole _ states'
    · exact .whole _ states'
    · exact rest (.ok value) _ _ states'

private theorem pass {ended : Except Exit Unit × RunState σ τ}
    {ended' : Except Exit Unit × RunState σ' τ'} (outcome : Accordant ties depth ended ended')
    {next : Run σ τ Exit Unit} {next' : Run σ' τ' Exit Unit}
    (rest : Accord ties depth next next') :
    Accordant ties depth
      (match ended with
        | (result, state) =>
          match Eval.loopEnd? result with
          | some result => (result, state)
          | none => next state)
      (match ended' with
        | (result, state) =>
          match Eval.loopEnd? result with
          | some result => (result, state)
          | none => next' state) := by
  cases outcome with
  | broken isFault torn =>
    obtain ⟨fault, rfl⟩ := isFault
    exact .broken ⟨fault, rfl⟩ torn
  | whole result states =>
    dsimp only
    cases Eval.loopEnd? result with
    | some last => exact .whole last states
    | none => exact rest _ _ states

theorem repeatWhile {condition : Run σ τ Exit Bool} {condition' : Run σ' τ' Exit Bool}
    {body : Run σ τ Exit Unit} {body' : Run σ' τ' Exit Unit}
    (conditions : Accord ties depth condition condition')
    (bodies : Accord ties depth body body') (bound : Nat) :
    Accord ties depth (Eval.repeatWhile condition body bound)
      (Eval.repeatWhile condition' body' bound) := by
  induction bound with
  | zero => exact fun _ _ states => .whole _ states
  | succ bound ih =>
    intro left right states
    have outcome := conditions left right states
    simp only [Eval.repeatWhile]
    generalize condition left = ended at outcome
    generalize condition' right = ended' at outcome
    cases outcome with
    | broken fault torn => exact .broken fault torn
    | whole result states' =>
      rcases result with exit | _ | _
      · exact .whole _ states'
      · exact .whole _ states'
      · exact pass (bodies _ _ states') ih

theorem forEach {body : Value → Run σ τ Exit Unit} {body' : Value → Run σ' τ' Exit Unit}
    (bodies : ∀ item, Accord ties depth (body item) (body' item)) (items : List Value) :
    Accord ties depth (Eval.forEach body items) (Eval.forEach body' items) := by
  induction items with
  | nil => exact fun _ _ states => .whole _ states
  | cons item rest ih => exact fun left right states => pass (bodies item left right states) ih

end Accord

end ScriptEngine
