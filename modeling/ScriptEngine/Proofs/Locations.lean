import ScriptEngine.Proofs.ErrorOrigins
import ScriptEngine.Tree.Build

set_option autoImplicit false

namespace ScriptEngine

namespace ScriptError

theorem locate_eq (error : ScriptError) (site : SourceInfo) :
    error.locate site =
      if error.site.isSome || site.isEmpty then error else error.withSite site := by
  unfold locate
  cases error.site <;> cases site.isEmpty <;> rfl

theorem locate_empty (error : ScriptError) {site : SourceInfo} (nowhere : site.isEmpty = true) :
    error.locate site = error := by
  simp [locate_eq, nowhere]

theorem locate_of_placed {error : ScriptError} (placed : error.site.isSome = true)
    (site : SourceInfo) : error.locate site = error := by
  simp [locate_eq, placed]

theorem isSome_locate (error : ScriptError) {site : SourceInfo} (placed : site.isEmpty = false) :
    (error.locate site).site.isSome = true := by
  rw [locate_eq]
  split
  · simp_all
  · rfl

theorem locate_locate (error : ScriptError) (inner outer : SourceInfo) :
    (error.locate inner).locate outer = error.locate (if inner.isEmpty then outer else inner) := by
  cases nowhere : inner.isEmpty with
  | true => simp [locate_empty error nowhere]
  | false => simpa using locate_of_placed (error.isSome_locate nowhere) outer

end ScriptError

namespace Exit

theorem locate_empty (exit : Exit) {site : SourceInfo} (nowhere : site.isEmpty = true) :
    exit.locate site = exit := by
  cases exit with
  | halted halt =>
    cases halt with
    | raised error => simp only [locate, Halt.locate, error.locate_empty nowhere]
    | fault | outOfFuel => rfl
  | jumped | returned => rfl

theorem locate_locate (exit : Exit) (inner outer : SourceInfo) :
    (exit.locate inner).locate outer = exit.locate (if inner.isEmpty then outer else inner) := by
  cases exit with
  | halted halt =>
    cases halt with
    | raised error => simp only [locate, Halt.locate, error.locate_locate]
    | fault | outOfFuel => rfl
  | jumped | returned => rfl

theorem locate_cases (exit : Exit) (site : SourceInfo) :
    exit.locate site = exit ∨ ∃ error, site.isEmpty = false ∧ error.site = none ∧
      exit = .raised error ∧ exit.locate site = .raised (error.withSite site) := by
  cases exit with
  | halted halt =>
    cases halt with
    | raised error =>
      cases kept : error.site.isSome || site.isEmpty with
      | true =>
        left
        simp only [locate, Halt.locate, error.locate_eq, kept, if_true]
      | false =>
        obtain ⟨unplaced, placed⟩ := Bool.or_eq_false_iff.mp kept
        refine Or.inr ⟨error, placed, by simpa using unplaced, rfl, ?_⟩
        simp only [locate, Halt.locate, error.locate_eq, kept]
        rfl
    | fault | outOfFuel => exact Or.inl rfl
  | jumped | returned => exact Or.inl rfl

end Exit

namespace Run

variable {σ τ α β : Type}

theorem located_nowhere (site : SourceInfo) (node : Run σ τ Exit α) :
    Run.located site (Run.located .empty node) = Run.located site node := by
  congr 1
  funext state
  simp only [located, Act.mapError]
  rcases node state with ⟨exit | value, last⟩
  · simp only [Except.mapError, exit.locate_empty SourceInfo.isEmpty_empty]
  · rfl

theorem located_located (inner outer : SourceInfo) (node : Run σ τ Exit α) :
    Run.located outer (Run.located inner node) =
      Run.located (if inner.isEmpty then outer else inner) node := by
  funext state
  simp only [located, Act.mapError]
  rcases node state with ⟨exit | value, last⟩
  · simp only [Except.mapError, exit.locate_locate]
  · rfl

theorem located_map (site : SourceInfo) (change : α → β) (node : Run σ τ Exit α) :
    Run.located site (change <$> node) = change <$> Run.located site node := by
  funext state
  simp only [located, Act.mapError, Act.map_apply]
  rcases node state with ⟨exit | value, last⟩ <;> rfl

/-- The errors that leave a located run are those that reach it, placed if they were not. -/
theorem located_raised_iff {site : SourceInfo} {node : Run σ τ Exit α} {state last : RunState σ τ}
    {error : ScriptError} :
    Run.located site node state = (.error (.raised error), last) ↔
      ∃ arrived, node state = (.error (.raised arrived), last) ∧ error = arrived.locate site := by
  simp only [located, Act.mapError]
  rcases node state with ⟨(direction | value | arrived | fault | _) | value, final⟩
  all_goals simp [Except.mapError, Exit.locate, Halt.locate, Exit.raised, eq_comm, and_comm]

end Run

/-- The same conditional at another place of the text. -/
def Conditional.locate (site : SourceInfo) : Conditional → Conditional
  | .ifThen _ condition body alternative => .ifThen site condition body alternative
  | .otherwise _ body => .otherwise site body
  | .whileLoop _ condition body => .whileLoop site condition body
  | .forIn _ item iterable body => .forIn site item iterable body
  | .attempt _ body handlers => .attempt site body handlers

section Inner

variable {σ τ : Type}

/-- The expression evaluated as if it had no place, so that errors come out as they reach it. Only
the writes that it asks for are still told the place. -/
def Expression.inner (env : Environment σ τ) (context : ContextRef) :
    Expression → Run σ τ Exit Value
  | .node site .assign (some target) (some source) =>
    match Eval.declaration? target with
    | some _ => Eval.expression env context (.node .empty .assign (some target) (some source))
    | none => do
      let place ← Eval.place env context target
      let value ← Eval.operand env context source
      Run.lift (env.write place value site)
      pure value
  | .node site .increment left _ =>
    Eval.compound env.write .add (Eval.requiredPlace env context .increment left)
      (pure (.int 1)) site
  | .node site .decrement left _ =>
    Eval.compound env.write .sub (Eval.requiredPlace env context .decrement left)
      (pure (.int 1)) site
  | .node site op left right =>
    match op.compound? with
    | some arithmetic =>
      Eval.compound env.write arithmetic (Eval.requiredPlace env context op left)
        (Eval.required env context op right) site
    | none => Eval.expression env context (.node .empty op left right)

/-- The operand evaluated as if it had no place. Only the call that it makes and the object that it
makes are still told the place. -/
def Operand.inner (env : Environment σ τ) (context : ContextRef) : Operand → Run σ τ Exit Value
  | .object site properties => do
    let inner ← Eval.onSpace (Space.fork context site)
    let object ← Eval.onSpace
      (Space.allocateObject { properties := ∅, context := some inner, site := site })
    Eval.onSpace (Space.define inner "this" object .immutable)
    Eval.properties env inner object properties
    pure object
  | .call site callee arguments => do
    let value ← Eval.expression env context callee
    let values ← Eval.expressions env context arguments
    Run.lift (env.call value values (if site.isEmpty then callee.site else site))
  | tree => Eval.operand env context (tree.locate .empty)

/-- The node evaluated as if it had no place. -/
def Node.inner (env : Environment σ τ) (context : ContextRef) : Node → Run σ τ Exit Unit
  | .statement _ body => (fun _ => ()) <$> Eval.expression env context body
  | .expression tree => (fun _ => ()) <$> tree.inner env context
  | .operand tree => (fun _ => ()) <$> tree.inner env context
  | .expressionPlace tree => (fun _ => ()) <$> Eval.expressionPlace env context (tree.locate .empty)
  | .operandPlace tree => (fun _ => ()) <$> Eval.place env context (tree.locate .empty)
  | .conditional tree => Eval.conditional env context (tree.locate .empty)

variable (env : Environment σ τ) (context : ContextRef)

theorem Expression.located_inner (tree : Expression) :
    Eval.expression env context tree = Run.located tree.site (tree.inner env context) := by
  obtain ⟨site, op, left, right⟩ := tree
  cases op with
  | assign =>
    cases left with
    | none =>
      rw [Eval.expression.eq_def]
      rfl
    | some target =>
      cases right with
      | none =>
        rw [Eval.expression.eq_def]
        rfl
      | some source =>
        rw [inner, Eval.expression.eq_def]
        cases declares : Eval.declaration? target with
        | some declared =>
          rw [Eval.expression.eq_def]
          simp only [declares]
          exact (Run.located_nowhere site _).symm
        | none =>
          simp only [declares]
          rfl
  | increment | decrement | addAssign | subAssign | mulAssign | divAssign | remAssign =>
    rw [Eval.expression.eq_def]
    rfl
  | plain | ret | raise | not | eq | ne | lt | le | gt | ge | and | or | add | sub | mul | div
  | rem | child | index | append =>
    simp only [inner, Operator.compound?]
    rw [Eval.expression.eq_def, Eval.expression.eq_def]
    exact (Run.located_nowhere site _).symm

theorem Operand.located_inner (tree : Operand) :
    Eval.operand env context tree = Run.located tree.site (tree.inner env context) := by
  cases tree with
  | object | call =>
    rw [Eval.operand.eq_def]
    rfl
  | literal | jump | range => rfl
  | var site | array site | nested site | function site =>
    simp only [inner, Operand.locate]
    rw [Eval.operand.eq_def, Eval.operand.eq_def]
    exact (Run.located_nowhere site _).symm

theorem Operand.located_place (tree : Operand) :
    Eval.place env context tree =
      Run.located tree.site (Eval.place env context (tree.locate .empty)) := by
  cases tree with
  | literal site | var site | array site | object site | nested site | function site | call site
  | jump site | range site =>
    simp only [Operand.locate]
    rw [Eval.place.eq_def, Eval.place.eq_def]
    exact (Run.located_nowhere site _).symm

variable {env context} {state : RunState σ τ}

/-- Whether a part is located with the whole or apart from it shows only in its own errors. -/
private theorem bind_located {α β : Type} {site : SourceInfo} {first : Run σ τ Exit α}
    {next next' : α → Run σ τ Exit β}
    (quiet : ∀ error last, first state ≠ (.error (.raised error), last))
    (rest : ∀ value, next value = Run.located site (next' value)) :
    (first >>= next) state = Run.located site (first >>= next') state := by
  simp only [Act.bind_apply, Run.located, Act.mapError]
  generalize first state = ended at quiet
  rcases ended with ⟨(direction | value | arrived | fault | _) | value, middle⟩
  · rfl
  · rfl
  · exact absurd rfl (quiet arrived middle)
  · rfl
  · rfl
  · exact congrFun (rest value) middle

theorem Expression.located_place {tree : Expression}
    (quiet : ∀ part ∈ (Node.expressionPlace tree).passed, ∀ error last,
      part.run env context state ≠ (.error (.raised error), last)) :
    Eval.expressionPlace env context tree state =
      Run.located tree.site (Eval.expressionPlace env context (tree.locate .empty)) state := by
  obtain ⟨site, op, left, right⟩ := tree
  simp only [Expression.locate]
  rw [Eval.expressionPlace.eq_def, Eval.expressionPlace.eq_def]
  cases op with
  | child =>
    refine bind_located (fun error last failed => ?_) fun object => ?_
    · cases left with
      | none => cases failed
      | some inner =>
        exact quiet _ (List.mem_singleton_self _) error last (Node.map_raised_iff.mpr failed)
    · funext middle
      refine bind_located (fun error last failed => ?_) fun key =>
        (Run.located_nowhere site _).symm
      have silent : Raises (fun _ _ => False)
          (Run.lift (Run.askSpace fun _ => Eval.keyName right) : Run σ τ Exit String) :=
        .lift (.askSpace _)
      exact silent.elim failed rfl
  | plain | assign | ret | raise | not | eq | ne | lt | le | gt | ge | and | or | add | sub | mul
  | div | rem | increment | decrement | addAssign | subAssign | mulAssign | divAssign | remAssign
  | index | append => exact congrFun (Run.located_nowhere site _).symm state

theorem Conditional.located_inner {tree : Conditional}
    (quiet : ∀ part ∈ (Node.conditional tree).passed, ∀ error last,
      part.run env context state ≠ (.error (.raised error), last)) :
    Eval.conditional env context tree state =
      Run.located tree.site (Eval.conditional env context (tree.locate .empty)) state := by
  cases tree with
  | ifThen site condition body alternative =>
    simp only [Conditional.locate]
    rw [Eval.conditional.eq_def, Eval.conditional.eq_def]
    refine bind_located (fun error last failed => ?_) fun value =>
      (Run.located_nowhere site _).symm
    exact quiet _ (List.mem_singleton_self _) error last (Node.map_raised_iff.mpr failed)
  | otherwise site | whileLoop site | attempt site =>
    simp only [Conditional.locate]
    rw [Eval.conditional.eq_def, Eval.conditional.eq_def]
    exact congrFun (Run.located_nowhere site _).symm state
  | forIn site item iterable body =>
    obtain ⟨bodySite, trees⟩ := body
    simp only [Conditional.locate]
    rw [Eval.conditional.eq_def, Eval.conditional.eq_def]
    exact congrFun (Run.located_nowhere site _).symm state

namespace Node

variable {node : Node}

/-- Apart from the errors that pass a node by, the node does what it would do without a place, and
gives its place to the errors. -/
theorem located_inner
    (quiet : ∀ part ∈ node.passed, ∀ error last,
      part.run env context state ≠ (.error (.raised error), last)) :
    node.run env context state = Run.located node.site (node.inner env context) state := by
  cases node with
  | statement site body => exact congrFun (Run.located_map site _ _).symm state
  | expression tree =>
    simp only [run, inner, site, tree.located_inner, Run.located_map]
  | operand tree =>
    simp only [run, inner, site, tree.located_inner, Run.located_map]
  | operandPlace tree =>
    simp only [run, inner, site, Run.located_map]
    rw [← tree.located_place]
  | expressionPlace tree =>
    simp only [run, inner, site, Run.located_map, Act.map_apply]
    rw [tree.located_place quiet]
  | conditional tree => exact tree.located_inner quiet

/-- An error that passes a node by leaves it as it is. -/
theorem run_of_passed {part : Node} (member : part ∈ node.passed) {error : ScriptError}
    {last : RunState σ τ} (failed : part.run env context state = (.error (.raised error), last)) :
    node.run env context state = (.error (.raised error), last) := by
  cases node with
  | conditional tree =>
    cases tree with
    | ifThen site condition body alternative =>
      obtain rfl := List.mem_singleton.mp member
      have ended := map_raised_iff.mp failed
      exact (Act.bind_apply ..).trans (by rw [ended])
    | otherwise | whileLoop | forIn | attempt => cases member
  | expressionPlace tree =>
    obtain ⟨site, op, left, right⟩ := tree
    cases op with
    | child =>
      cases left with
      | none => cases member
      | some object =>
        obtain rfl := List.mem_singleton.mp member
        have ended : Eval.required env context .child (some object) state =
            (.error (.raised error), last) := map_raised_iff.mp failed
        exact map_raised_iff.mpr ((Act.bind_apply ..).trans (by rw [ended]))
    | plain | assign | ret | raise | not | eq | ne | lt | le | gt | ge | and | or | add | sub | mul
    | div | rem | increment | decrement | addAssign | subAssign | mulAssign | divAssign
    | remAssign | index | append => cases member
  | statement | expression | operand | operandPlace => cases member

end Node

end Inner

/-- Every error that leaves a node with a place has a place, unless it is one that the node lets
pass. The others reach the node as if it had no place: if they have one they keep it, else they get
that of the node. -/
theorem located_nodes_place_errors {σ τ : Type} (env : Environment σ τ) (context : ContextRef)
    (node : Node) (state : RunState σ τ) :
    (node.site.isEmpty = false → ∀ error last,
      node.run env context state = (.error (.raised error), last) →
      error.site.isSome = true ∨
        ∃ part ∈ node.passed, part.run env context state = (.error (.raised error), last)) ∧
    (∀ part ∈ node.passed, ∀ error last,
      part.run env context state = (.error (.raised error), last) →
      node.run env context state = (.error (.raised error), last)) ∧
    ((∀ part ∈ node.passed, ∀ error last,
        part.run env context state ≠ (.error (.raised error), last)) →
      ∀ error last, node.run env context state = (.error (.raised error), last) ↔
        ∃ arrived, node.inner env context state = (.error (.raised arrived), last) ∧
          error = if arrived.site.isSome || node.site.isEmpty then arrived
            else arrived.withSite node.site) := by
  refine ⟨fun placed error last ended => ?_,
    fun part member error last => Node.run_of_passed member, fun quiet error last => ?_⟩
  · by_cases passes : ∃ part ∈ node.passed,
        part.run env context state = (.error (.raised error), last)
    · exact Or.inr passes
    · have quiet : ∀ part ∈ node.passed, ∀ other final,
          part.run env context state ≠ (.error (.raised other), final) := by
        intro part member other final failed
        have same := (Node.run_of_passed member failed).symm.trans ended
        cases same
        exact passes ⟨part, member, failed⟩
      obtain ⟨arrived, -, rfl⟩ :=
        Run.located_raised_iff.mp ((Node.located_inner quiet).symm.trans ended)
      exact Or.inl (arrived.isSome_locate placed)
  · simp only [Node.located_inner quiet, Run.located_raised_iff, ScriptError.locate_eq]

/-- One global context without bindings. -/
private def unbound : RunState Unit Empty :=
  ⟨((SpaceAction.newGlobal "main.js" "" '/').run {}).2, .empty none, (), []⟩

/-- An `if` on line three whose condition is a name without a place. -/
private def guarded : Node :=
  .conditional (.ifThen (.point "main.js" 3 1) (.var "missing") (.mk .empty []) none)

/-- The `if` has a place, and the error of its condition leaves it without one. -/
theorem error_of_condition_unplaced :
    guarded.site.isEmpty = false ∧
    (guarded.run (Eval.environment .storing {} 1) ⟨⟨0, 0⟩⟩ unbound).1 =
      .error (.raised (.ofKind (.unresolvedVariable "missing"))) ∧
    (ScriptError.ofKind (.unresolvedVariable "missing")).site = none :=
  ⟨rfl, rfl, rfl⟩

section Operands

theorem Expression.plain_or_nested (tree : Expression) :
    (∃ site operand, tree = .node site .plain (some operand) none) ∨
      tree.toOperand = .nested tree.site tree := by
  unfold toOperand
  split
  · exact Or.inl ⟨_, _, rfl⟩
  · exact Or.inr rfl

variable {σ τ : Type} (env : Environment σ τ) (context : ContextRef)

theorem Eval.expression_plain (site : SourceInfo) (operand : Operand) (right : Option Operand) :
    Eval.expression env context (.node site .plain (some operand) right) =
      Run.located site (Eval.operand env context operand) := by
  rw [Eval.expression.eq_def]

/-- To be nested at its own place changes nothing about an expression. -/
theorem Eval.operand_nested (tree : Expression) :
    Eval.operand env context (.nested tree.site tree) = Eval.expression env context tree := by
  rw [Eval.operand.eq_def]
  dsimp only
  rw [tree.located_inner, Run.located_located]
  cases tree.site.isEmpty <;> rfl

end Operands

/-- An expression and the operand that it becomes end in the same state and with the same result,
except that a plain expression does not give its place to an error any more. -/
theorem toOperand_preserves_meaning {σ τ : Type} (env : Environment σ τ) (context : ContextRef)
    (tree : Expression) (state : RunState σ τ) :
    let whole := Eval.expression env context tree state
    let inside := Eval.operand env context tree.toOperand state
    inside.2 = whole.2 ∧
    (inside.1 = whole.1 ∨
      ∃ site operand error, tree = .node site .plain (some operand) none ∧
        site.isEmpty = false ∧ error.site = none ∧ inside.1 = .error (.raised error) ∧
        whole.1 = .error (.raised (error.withSite site))) := by
  intro whole inside
  obtain ⟨site, operand, rfl⟩ | wrapped := tree.plain_or_nested
  · have located : whole = Run.located site (Eval.operand env context operand) state :=
      congrFun (Eval.expression_plain env context site operand none) state
    have same : inside = Eval.operand env context operand state := rfl
    rw [located, same]
    dsimp only [Run.located, Act.mapError]
    rcases Eval.operand env context operand state with ⟨exit | value, last⟩
    · refine ⟨rfl, ?_⟩
      rcases exit.locate_cases site with kept | ⟨error, placed, unplaced, rfl, given⟩
      · exact Or.inl (congrArg Except.error kept.symm)
      · exact Or.inr ⟨site, operand, error, rfl, placed, unplaced, rfl, congrArg Except.error given⟩
    · exact ⟨rfl, Or.inl rfl⟩
  · have same : inside = whole := by
      simp only [inside, wrapped, Eval.operand_nested, whole]
    rw [same]
    exact ⟨rfl, Or.inl rfl⟩

/-- A name that is all of an expression on line four. -/
private def stray : Expression := (Expression.var "missing").locate (.point "main.js" 4 1)

/-- The place is lost once the expression is an operand. -/
theorem error_of_operand_unplaced :
    (Eval.expression (Eval.environment .storing {} 1) ⟨⟨0, 0⟩⟩ stray unbound).1 =
      .error (.raised ((ScriptError.ofKind (.unresolvedVariable "missing")).withSite
        (.point "main.js" 4 1))) ∧
    (Eval.operand (Eval.environment .storing {} 1) ⟨⟨0, 0⟩⟩ stray.toOperand unbound).1 =
      .error (.raised (.ofKind (.unresolvedVariable "missing"))) :=
  ⟨rfl, rfl⟩

end ScriptEngine
