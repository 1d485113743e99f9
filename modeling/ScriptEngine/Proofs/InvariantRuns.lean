import ScriptEngine.Proofs.SpaceMoves
import ScriptEngine.Proofs.ContextChains

set_option autoImplicit false

namespace ScriptEngine

/-- A property of the space and of the state of the host that moves of the space keep, as long as
nothing is made below a context that the law does not allow. Which contexts it allows can only
grow, so a node may rely on the context that it runs in. -/
structure Law (σ : Type) where
  kept : Space → σ → Prop
  bases : Space.Bases
  tidy : ∀ {space own}, kept space own → space.Tidy
  move : ∀ {before after own}, kept before own → Space.Move bases before after → kept after own
  grow : ∀ {before after base}, Space.Move bases before after → bases.parents before base →
    bases.parents after base
  count : ∀ {space own}, kept space own → ∀ executions, kept { space with executions } own
  recount : ∀ {space base}, bases.parents space base → ∀ executions,
    bases.parents { space with executions } base
  contexts : ∀ {space context data}, space.get? context.handle = some (.context data) →
    bases.parents space context

section

variable {σ τ : Type}

/-- The law holds during an execution, and things may be made below these contexts. -/
structure Law.Ready (law : Law σ) (known : List ContextRef) (state : RunState σ τ) : Prop where
  kept : law.kept state.space state.own
  busy : state.space.inExecution = true
  known : ∀ base ∈ known, law.bases.parents state.space base

/-- The law holds, and what was allowed before is allowed. No execution was left that was not
entered. -/
structure Law.Onward (law : Law σ) (before after : RunState σ τ) : Prop where
  kept : law.kept after.space after.own
  grown : ∀ {base}, law.bases.parents before.space base → law.bases.parents after.space base
  executions : before.space.executions ≤ after.space.executions

/-- However the run ends, it upholds the law. -/
def Upholds {ε α : Type} (law : Law σ) (known : List ContextRef) (run : Run σ τ ε α) : Prop :=
  ∀ state, law.Ready known state → law.Onward state (run state).2

variable {law : Law σ} {known : List ContextRef} {state middle last : RunState σ τ}

namespace Law

theorem Ready.onward (ready : law.Ready known state) : law.Onward state state :=
  ⟨ready.kept, id, Nat.le_refl _⟩

theorem Onward.trans (first : law.Onward state middle) (second : law.Onward middle last) :
    law.Onward state last :=
  ⟨second.kept, fun allowed => second.grown (first.grown allowed),
    Nat.le_trans first.executions second.executions⟩

theorem Ready.after (ready : law.Ready known state) (onward : law.Onward state last) :
    law.Ready known last := by
  refine ⟨onward.kept, ?_, fun base member => onward.grown (ready.known base member)⟩
  have before := ready.busy
  have more := onward.executions
  simp only [Space.inExecution, decide_eq_true_eq] at before ⊢
  omega

theorem Ready.weaken (ready : law.Ready known state) : law.Ready [] state :=
  ⟨ready.kept, ready.busy, nofun⟩

theorem Ready.learn (ready : law.Ready known state) {context : ContextRef}
    (allowed : law.bases.parents state.space context) : law.Ready [context] state :=
  ⟨ready.kept, ready.busy, by simpa using allowed⟩

/-- The calls that are active and the tasks that wait do not matter. -/
theorem Ready.restack (ready : law.Ready known state) (stack : CallStack) :
    law.Ready known { state with stack } :=
  ⟨ready.kept, ready.busy, ready.known⟩

theorem onward_of_moved (kept : law.kept state.space state.own) {space : Space}
    (moved : Space.Moved law.bases state.space space) :
    law.Onward state { state with space } := by
  induction moved with
  | refl => exact ⟨kept, id, Nat.le_refl _⟩
  | tail _ move ih =>
    exact ⟨law.move ih.kept move, fun allowed => law.grow move (ih.grown allowed),
      Nat.le_trans ih.executions (Nat.le_of_eq move.executions.symm)⟩

end Law

namespace Upholds

variable {ε ε' α β : Type}

theorem weaken {run : Run σ τ ε α} (upholds : Upholds law [] run) : Upholds law known run :=
  fun state ready => upholds state ready.weaken

theorem pure (value : α) : Upholds law known (pure value : Run σ τ ε α) :=
  fun _ ready => ready.onward

theorem throw (reason : ε) : Upholds law known (throw reason : Run σ τ ε α) :=
  fun _ ready => ready.onward

/-- The second run may rely on what the result of the first one shows. -/
theorem bind_learning {first : Run σ τ ε α} {next : α → Run σ τ ε β}
    (learned : α → List ContextRef) (before : Upholds law known first)
    (learns : ∀ state value last, law.Ready known state → first state = (.ok value, last) →
      law.Ready (learned value) last)
    (after : ∀ value, Upholds law (learned value) (next value)) :
    Upholds law known (first >>= next) := by
  intro state ready
  have begun := before state ready
  have learning := learns state
  rw [Act.bind_apply]
  generalize first state = ended at begun learning
  rcases ended with ⟨reason | value, middle⟩
  · exact begun
  · exact begun.trans (after value middle (learning value middle ready rfl))

theorem bind {first : Run σ τ ε α} {next : α → Run σ τ ε β} (before : Upholds law known first)
    (after : ∀ value, Upholds law known (next value)) : Upholds law known (first >>= next) := by
  refine before.bind_learning _ (fun state value last ready ended => ?_) after
  have onward := before state ready
  rw [ended] at onward
  exact ready.after onward

theorem map {first : Run σ τ ε α} (change : α → β) (before : Upholds law known first) :
    Upholds law known (change <$> first) := by
  rw [map_eq_pure_bind]
  exact before.bind fun value => pure (change value)

theorem askSpace (question : Space → Except Fault α) :
    Upholds law known (Run.askSpace question : Run σ τ Halt α) :=
  fun _ ready => ready.onward

theorem ofSpace {operation : SpaceM α} (moves : Space.Moves law.bases operation) :
    Upholds law known (Run.ofSpace operation : Run σ τ Halt α) :=
  fun state ready => Law.onward_of_moved ready.kept (moves state.space (law.tidy ready.kept))

theorem lift {first : Run σ τ Halt α} (before : Upholds law known first) :
    Upholds law known (Run.lift first) :=
  before

theorem onSpace {operation : SpaceM α} (moves : Space.Moves law.bases operation) :
    Upholds law known (Eval.onSpace operation : Run σ τ Exit α) :=
  lift (ofSpace moves)

theorem raise (error : ScriptError) : Upholds law known (Run.raise error : Run σ τ Halt α) :=
  throw _

theorem orRaise (result : Except ScriptError α) :
    Upholds law known (Run.orRaise result : Run σ τ Halt α) := by
  cases result with
  | ok value => exact pure value
  | error error => exact raise error

theorem located (site : SourceInfo) {node : Run σ τ Exit α} (before : Upholds law known node) :
    Upholds law known (Run.located site node) :=
  before

private theorem learn_fork {context inner : ContextRef} (site : SourceInfo)
    (ready : law.Ready [context] state)
    (ended : (Run.ofSpace (Space.fork context site) : Run σ τ Halt ContextRef) state =
      (.ok inner, last)) : law.Ready [inner] last := by
  have tidy := law.tidy ready.kept
  have allowed := ready.known _ (List.mem_singleton.mpr rfl)
  have onward := Law.onward_of_moved ready.kept (Space.moved_fork tidy allowed site)
  simp only [Run.ofSpace] at ended
  rcases tidy.fork context site with ⟨made, after, forked, -, -, placed⟩ | ⟨full, -⟩
  · rw [forked] at ended onward
    cases ended
    exact (ready.after onward).learn (law.contexts placed.here)
  · rw [full] at ended
    cases ended

theorem ofSpace_fork (context : ContextRef) (site : SourceInfo)
    {next : ContextRef → Run σ τ Halt α} (rest : ∀ inner, Upholds law [inner] (next inner)) :
    Upholds law [context] (Run.ofSpace (Space.fork context site) >>= next) := by
  refine bind_learning (fun inner => [inner]) (fun state ready => ?_)
    (fun state inner last ready ended => learn_fork site ready ended) rest
  exact Law.onward_of_moved ready.kept
    (Space.moved_fork (law.tidy ready.kept) (ready.known _ (List.mem_singleton.mpr rfl)) site)

theorem onSpace_fork (context : ContextRef) (site : SourceInfo)
    {next : ContextRef → Run σ τ Exit α} (rest : ∀ inner, Upholds law [inner] (next inner)) :
    Upholds law [context] (Eval.onSpace (Space.fork context site) >>= next) := by
  refine bind_learning (fun inner => [inner]) (fun state ready => ?_)
    (fun state inner last ready ended => ?_) rest
  · exact Law.onward_of_moved ready.kept
      (Space.moved_fork (law.tidy ready.kept) (ready.known _ (List.mem_singleton.mpr rfl)) site)
  · refine learn_fork site ready ?_
    simp only [Eval.onSpace, Run.lift, Act.mapError] at ended
    generalize Run.ofSpace (Space.fork context site) state = forked at ended ⊢
    rcases forked with ⟨halt | made, after⟩
    · cases ended
    · cases ended
      rfl

theorem allocateFunction (closure : Closure) :
    Upholds law [closure.context]
      (Run.ofSpace (Space.allocateFunction closure) : Run σ τ Halt Value) :=
  fun _ ready => Law.onward_of_moved ready.kept <| Space.moved_allocateFunction
    (law.tidy ready.kept) fun _ => ready.known _ (List.mem_singleton.mpr rfl)

theorem callTarget_run {handle : Handle} {next : CallTarget → Run σ τ Halt α}
    (kept : law.kept state.space state.own)
    (functions : ∀ closure, state.space.get? handle = some (.function closure) →
      law.Onward state (next (.function closure) state).2)
    (natives : ∀ callee, law.Onward state (next (.native callee) state).2) :
    law.Onward state ((Run.askSpace (·.callTarget handle) >>= next) state).2 := by
  have idle : law.Onward state state := ⟨kept, id, Nat.le_refl _⟩
  simp only [Act.bind_apply, Run.askSpace, Space.callTarget, Space.get]
  cases held : state.space.get? handle with
  | none => exact idle
  | some payload =>
    cases payload with
    | array | object | context => exact idle
    | native callee => exact natives callee
    | function closure => exact functions closure held

/-- An execution may be entered wherever the law holds. It is left again unless a fault cuts
through. -/
theorem executing_run {body : Run σ τ Halt α} (upholds : Upholds law known body)
    (kept : law.kept state.space state.own)
    (allowed : ∀ base ∈ known, law.bases.parents state.space base) :
    law.Onward state (Run.executing body state).2 := by
  have entered : law.Ready known { state with space := state.space.enterExecution } :=
    ⟨law.count kept _, by simp [Space.inExecution, Space.enterExecution],
      fun base member => law.recount (allowed base member) _⟩
  have onward := upholds _ entered
  have more : state.space.executions + 1 ≤ _ := onward.executions
  have left : ∀ last : RunState σ τ, last = (body { state with
      space := state.space.enterExecution }).2 →
      law.Onward state { last with space := last.space.leaveExecution } := by
    rintro last rfl
    refine ⟨law.count onward.kept _, fun base => ?_, ?_⟩
    · exact law.recount (onward.grown (law.recount base _)) _
    · exact Nat.le_sub_of_add_le more
  have torn : ∀ last : RunState σ τ, last = (body { state with
      space := state.space.enterExecution }).2 → law.Onward state last := by
    rintro last rfl
    exact ⟨onward.kept, fun base => onward.grown (law.recount base _), by omega⟩
  simp only [Run.executing]
  generalize body _ = ended at left torn
  rcases ended with ⟨(error | fault | _) | value, last⟩
  · exact left last rfl
  · exact torn last rfl
  · exact left last rfl
  · exact left last rfl

theorem framed (frame : Frame) {body : Run σ τ Halt Value} (upholds : Upholds law known body) :
    Upholds law known (Run.framed frame body) := by
  intro state ready
  simp only [Run.framed]
  cases state.stack.push frame with
  | error error => exact ready.onward
  | ok pushed =>
    have onward := upholds _ (ready.restack pushed)
    dsimp only
    generalize body _ = ended at onward
    exact ⟨onward.kept, onward.grown, onward.executions⟩

theorem finishing {body : Run σ τ Exit Unit} (upholds : Upholds law known body) :
    Upholds law known (Run.finishing body) :=
  upholds

theorem rescuing {body : Run σ τ Exit Unit} {handler : ScriptError → Run σ τ Exit Unit}
    (upholds : Upholds law known body) (handlers : ∀ error, Upholds law known (handler error)) :
    Upholds law known (Run.rescuing body handler) := by
  intro state ready
  have onward := upholds state ready
  simp only [Run.rescuing]
  generalize body state = ended at onward
  rcases ended with ⟨(direction | value | error | fault | _) | _, last⟩
  · exact onward
  · exact onward
  · exact onward.trans (handlers error last (ready.after onward))
  · exact onward
  · exact onward
  · exact onward

theorem answered {first : Run σ τ Halt α} {next : Except ScriptError α → Run σ τ Halt β}
    (upholds : Upholds law known first) (rest : ∀ result, Upholds law known (next result)) :
    Upholds law known (Eval.answered first next) := by
  intro state ready
  have onward := upholds state ready
  unfold Eval.answered
  generalize first state = ended at onward
  rcases ended with ⟨(error | fault | _) | value, last⟩
  · exact onward.trans (rest _ last (ready.after onward))
  · exact onward
  · exact onward
  · exact onward.trans (rest _ last (ready.after onward))

private theorem pass {ended : Except Exit Unit × RunState σ τ} (ready : law.Ready known state)
    (onward : law.Onward state ended.2) {next : Run σ τ Exit Unit}
    (rest : Upholds law known next) :
    law.Onward state
      (match ended with
        | (result, state) =>
          match Eval.loopEnd? result with
          | some result => (result, state)
          | none => next state).2 := by
  obtain ⟨result, last⟩ := ended
  dsimp only
  cases Eval.loopEnd? result with
  | some verdict => exact onward
  | none => exact onward.trans (rest last (ready.after onward))

theorem repeatWhile {condition : Run σ τ Exit Bool} {body : Run σ τ Exit Unit}
    (conditions : Upholds law known condition) (bodies : Upholds law known body) (bound : Nat) :
    Upholds law known (Eval.repeatWhile condition body bound) := by
  induction bound with
  | zero => exact fun _ ready => ready.onward
  | succ bound ih =>
    intro state ready
    have onward := conditions state ready
    simp only [Eval.repeatWhile]
    generalize condition state = ended at onward
    rcases ended with ⟨exit | _ | _, middle⟩
    · exact onward
    · exact onward
    · have again := ready.after onward
      exact onward.trans (pass again (bodies middle again) ih)

theorem forEach {body : Value → Run σ τ Exit Unit}
    (bodies : ∀ item, Upholds law known (body item)) (items : List Value) :
    Upholds law known (Eval.forEach body items) := by
  induction items with
  | nil => exact fun _ ready => ready.onward
  | cons item rest ih => exact fun state ready => pass ready (bodies item state ready) ih

end Upholds

end

end ScriptEngine
