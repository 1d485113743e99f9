import ScriptEngine.Proofs.InvariantRuns

set_option autoImplicit false

namespace ScriptEngine

/-- Hooks, writes, bodies, handlers and calls uphold the law. -/
structure Environment.Lawful {σ τ : Type} (law : Law σ) (env : Environment σ τ) : Prop where
  hook : ∀ number write, Upholds law [] (Eval.consult env.host number write)
  write : ∀ place value site, Upholds law [] (env.write place value site)
  finish : ∀ {known} {body : Run σ τ Exit Unit}, Upholds law known body →
    Upholds law known (env.finish body)
  rescue : ∀ {known} {body : Run σ τ Exit Unit} {handler : ScriptError → Run σ τ Exit Unit},
    Upholds law known body → (∀ error, Upholds law known (handler error)) →
    Upholds law known (env.rescue body handler)
  call : ∀ callee arguments site, Upholds law [] (env.call callee arguments site)

namespace Upholds

variable {σ τ : Type} {law : Law σ} {known : List ContextRef}

theorem addition (left right : Value) :
    Upholds law known (Eval.add left right : Run σ τ Halt Value) := by
  unfold Eval.add
  split
  · exact askSpace _
  · exact askSpace _
  · exact (askSpace _).bind fun _ => (askSpace _).bind fun _ =>
      ofSpace (Space.moves_allocateArray _)
  · exact orRaise _

theorem binary (op : BinaryOperator) (left right : Value) :
    Upholds law known (Eval.binary op left right : Run σ τ Halt Value) := by
  unfold Eval.binary
  split
  · exact askSpace _
  · exact askSpace _
  · exact orRaise _
  · exact addition _ _
  · exact orRaise _

theorem keyPlace (target key : Value) :
    Upholds law known (Eval.keyPlace target key : Run σ τ Halt Place) := by
  unfold Eval.keyPlace
  split
  · exact (askSpace _).bind fun _ => (orRaise _).bind fun _ => pure _
  · exact pure _
  · exact raise _

theorem rangePlace (array : Handle) (lower upper : Option Int64) :
    Upholds law known (Eval.rangePlace array lower upper : Run σ τ Halt Place) :=
  (askSpace _).bind fun _ => (orRaise _).bind fun _ => pure _

theorem readPlace (place : Place) :
    Upholds law known (Eval.readPlace place : Run σ τ Halt Value) := by
  cases place with
  | binding context name declared =>
    cases declared with
    | true => exact (askSpace _).bind fun _ => orRaise _
    | false => exact raise _
  | property object key => exact askSpace _
  | element array index =>
    refine (askSpace _).bind fun items => ?_
    cases items[index]? with
    | some value => exact pure value
    | none => exact raise _
  | range array lower upper =>
    refine (askSpace _).bind fun items => ?_
    split
    · exact ofSpace (Space.moves_allocateArray _)
    · exact raise _

/-- The hook of a wrapped object is asked, and its answer is followed. -/
theorem setProperty {host : Host σ τ}
    (hooks : ∀ number write, Upholds law [] (Eval.consult host number write))
    (object : Value) (key : String) (value : Value) (site : SourceInfo) :
    Upholds law known (Eval.setProperty host object key value site) := by
  refine (askSpace _).bind fun handle => (askSpace _).bind fun wrapping => ?_
  rcases wrapping with _ | ⟨number, _ | setter, captures⟩
  · exact ofSpace (Space.moves_putProperty _ _ _)
  · exact ofSpace (Space.moves_putProperty _ _ _)
  · refine (hooks setter _).weaken.bind fun answer => ?_
    cases answer with
    | store stored => exact ofSpace (Space.moves_putProperty _ _ _)
    | absorb => exact pure ()
    | reject error => exact raise _
    | abort fault => exact throw _

theorem writeBinding (context : ContextRef) (name : String) (value : Value) :
    Upholds law known (Eval.writeBinding context name value : Run σ τ Halt Unit) := by
  refine (ofSpace (Space.moves_nameFunction _ _)).bind fun _ => ?_
  refine (ofSpace (Space.moves_assign _ _ _)).bind fun assigned => ?_
  cases assigned with
  | stored => exact pure ()
  | undefined => exact ofSpace (Space.moves_define _ _ _ _)
  | immutable => exact raise _

theorem writeElement (array : Handle) (index : Nat) (value : Value) :
    Upholds law known (Eval.writeElement array index value : Run σ τ Halt Unit) := by
  refine (askSpace _).bind fun items => ?_
  split
  · exact ofSpace (Space.moves_updateArray _ _)
  · exact raise _

theorem writeRange (array : Handle) (lower upper : Nat) (value : Value) :
    Upholds law known (Eval.writeRange array lower upper value : Run σ τ Halt Unit) := by
  cases value with
  | undefined | null | bool | int | float | string | object | callable => exact raise _
  | array source =>
    refine (askSpace _).bind fun replacement => (askSpace _).bind fun items => ?_
    split
    · exact ofSpace (Space.moves_updateArray _ _)
    · exact raise _

theorem writePlace {host : Host σ τ}
    (hooks : ∀ number write, Upholds law [] (Eval.consult host number write)) (place : Place)
    (value : Value) (site : SourceInfo) :
    Upholds law known (Eval.writePlace host place value site) := by
  cases place with
  | binding context name _ => exact writeBinding context name value
  | property object key =>
    exact (ofSpace (Space.moves_nameFunction _ _)).bind fun _ =>
      setProperty hooks object key value site
  | element array index => exact writeElement array index value
  | range array lower upper => exact writeRange array lower upper value

theorem readProperty (value : Value) (key : String) :
    Upholds law known (Eval.readProperty value key : Run σ τ Halt Value) := by
  cases value with
  | undefined | null | bool | int | float | callable => exact raise _
  | object handle => exact askSpace _
  | array handle =>
    simp only [Eval.readProperty]
    split
    · exact askSpace _
    · exact raise _
  | string text =>
    simp only [Eval.readProperty]
    split
    · exact pure _
    · exact raise _

theorem variableValue (context : ContextRef) (named : Variable) :
    Upholds law known (Eval.variableValue context named : Run σ τ Halt Value) := by
  unfold Eval.variableValue
  cases Eval.declared? named.hint with
  | none =>
    refine (askSpace _).bind fun found => ?_
    cases found with
    | ok value => exact pure value
    | error error => exact raise _
  | some mutability => exact (ofSpace (Space.moves_define _ _ _ _)).bind fun _ => pure _

theorem appendTo (target value : Value) :
    Upholds law known (Eval.appendTo target value : Run σ τ Halt Value) := by
  cases target with
  | undefined | null | bool | int | float | string | object | callable => exact raise _
  | array handle => exact (ofSpace (Space.moves_updateArray _ _)).bind fun _ => pure _

theorem loopItems (value : Value) :
    Upholds law known (Eval.loopItems value : Run σ τ Halt (List Value)) := by
  cases value with
  | undefined | null | bool | int | float | string | callable => exact raise _
  | array handle | object handle => exact askSpace _

/-- The right side of an index expression upholds the law. -/
inductive Selects (law : Law σ) (known : List ContextRef) : Eval.Selector σ τ → Prop where
  | missing : Selects law known .missing
  | range {lower upper : Run σ τ Exit (Option Int64)} (first : Upholds law known lower)
      (second : Upholds law known upper) : Selects law known (.range lower upper)
  | key {key : Run σ τ Exit Value} (selected : Upholds law known key) :
      Selects law known (.key key)

theorem indexPlace {target : Run σ τ Exit Value} (targets : Upholds law known target)
    {selector : Eval.Selector σ τ} (selects : Selects law known selector) :
    Upholds law known (Eval.indexPlace target selector) := by
  refine targets.bind fun value => ?_
  cases selects with
  | missing => exact throw _
  | key selected => exact selected.bind fun _ => lift (keyPlace _ _)
  | range first second =>
    cases value with
    | undefined | null | bool | int | float | string | object | callable => exact throw _
    | array array => exact first.bind fun _ => second.bind fun _ => lift (rangePlace _ _ _)

theorem strict (op : BinaryOperator) {left right : Run σ τ Exit Value}
    (lefts : Upholds law known left) (rights : Upholds law known right) :
    Upholds law known (Eval.strict op left right) :=
  lefts.bind fun _ => rights.bind fun _ => lift (binary op _ _)

theorem compound {env : Environment σ τ} (lawful : env.Lawful law) (op : Arithmetic)
    {place : Run σ τ Exit Place} {amount : Run σ τ Exit Value}
    (places : Upholds law known place) (amounts : Upholds law known amount) (site : SourceInfo) :
    Upholds law known (Eval.compound env.write op place amount site) := by
  refine places.bind fun found => (lift (readPlace found)).bind fun current => ?_
  refine amounts.bind fun amount => lift ((binary _ current amount).bind fun updated => ?_)
  exact (lawful.write found updated site).weaken.bind fun _ => pure updated

section Trees

variable {env : Environment σ τ}

mutual

theorem expression (lawful : env.Lawful law) (context : ContextRef) :
    (tree : Expression) → Upholds law [context] (Eval.expression env context tree)
  | .node site op left right => by
    have first := required lawful context op left
    have second := required lawful context op right
    have place := requiredPlace lawful context op left
    rw [Eval.expression.eq_def]
    refine located site ?_
    cases op with
    | plain =>
      cases left with
      | none => exact pure _
      | some inner => exact operand lawful context inner
    | assign =>
      cases left with
      | none => exact throw _
      | some goal =>
        cases right with
        | none => exact throw _
        | some origin =>
          dsimp only
          cases Eval.declaration? goal with
          | some declared =>
            refine (operand lawful context origin).bind fun value => ?_
            refine (onSpace (Space.moves_nameFunction _ _)).bind fun _ => ?_
            exact (onSpace (Space.moves_define _ _ _ _)).bind fun _ => pure value
          | none =>
            refine (Upholds.place lawful context goal).bind fun found => ?_
            refine (operand lawful context origin).bind fun value => ?_
            exact (lift (lawful.write found value site)).weaken.bind fun _ => pure value
    | ret =>
      cases right with
      | none => exact throw _
      | some inner => exact (operand lawful context inner).bind fun value => throw _
    | raise =>
      exact second.bind fun value => (lift (askSpace _)).bind fun error => throw _
    | not => exact second.bind fun value => pure _
    | and =>
      refine first.bind fun value => ?_
      split
      · exact second.bind fun value => pure _
      · exact pure _
    | or =>
      refine first.bind fun value => ?_
      split
      · exact pure _
      · exact second.bind fun value => pure _
    | eq | ne | lt | le | gt | ge | add | sub | mul | div | rem =>
      exact strict _ first second
    | increment | decrement => exact compound lawful _ place (pure _) site
    | addAssign | subAssign | mulAssign | divAssign | remAssign =>
      exact compound lawful _ place second site
    | child =>
      exact first.bind fun object => (lift (askSpace _)).bind fun key =>
        lift (readProperty object key)
    | index =>
      exact (indexPlace first (selector lawful context right)).bind fun found =>
        lift (readPlace found)
    | append =>
      exact first.bind fun target => second.bind fun value => lift (appendTo target value)

theorem required (lawful : env.Lawful law) (context : ContextRef) (op : Operator) :
    (tree : Option Operand) → Upholds law [context] (Eval.required env context op tree)
  | none => throw _
  | some inner => operand lawful context inner

theorem requiredPlace (lawful : env.Lawful law) (context : ContextRef) (op : Operator) :
    (tree : Option Operand) → Upholds law [context] (Eval.requiredPlace env context op tree)
  | none => throw _
  | some inner => place lawful context inner

theorem selector (lawful : env.Lawful law) (context : ContextRef) :
    (tree : Option Operand) → Selects law [context] (Eval.selector env context tree)
  | none => .missing
  | some inner => by
    cases inner with
    | range site lower upper =>
      exact .range (rangeBound lawful context lower) (rangeBound lawful context upper)
    | literal | var | array | object | nested | function | call | jump =>
      exact .key (operand lawful context _)

theorem rangeBound (lawful : env.Lawful law) (context : ContextRef) :
    (tree : Option Expression) → Upholds law [context] (Eval.rangeBound env context tree)
  | none => pure _
  | some inner => (expression lawful context inner).bind fun _ =>
    (lift (orRaise _)).bind fun _ => pure _

theorem place (lawful : env.Lawful law) (context : ContextRef) :
    (tree : Operand) → Upholds law [context] (Eval.place env context tree)
  | .var site _ => located site (lift (askSpace _))
  | .nested site inner => located site (expressionPlace lawful context inner)
  | .literal site _ | .array site _ | .object site _ | .function site _ _ | .call site _ _
  | .jump site _ | .range site _ _ => located site (throw _)

theorem expressionPlace (lawful : env.Lawful law) (context : ContextRef) :
    (tree : Expression) → Upholds law [context] (Eval.expressionPlace env context tree)
  | .node site op left right => by
    have first := required lawful context op left
    rw [Eval.expressionPlace.eq_def]
    cases op with
    | plain =>
      refine located site ?_
      cases left with
      | none => exact throw _
      | some inner => exact place lawful context inner
    | child =>
      exact first.bind fun object => (lift (askSpace _)).bind fun key =>
        located site (lift (orRaise _))
    | index => exact located site (indexPlace first (selector lawful context right))
    | assign | ret | raise | not | eq | ne | lt | le | gt | ge | and | or | add | sub | mul | div
    | rem | increment | decrement | addAssign | subAssign | mulAssign | divAssign | remAssign
    | append => exact located site (throw _)

theorem operand (lawful : env.Lawful law) (context : ContextRef) :
    (tree : Operand) → Upholds law [context] (Eval.operand env context tree)
  | .literal _ _ => pure _
  | .var site named => located site (lift (variableValue context named))
  | .array site elements =>
    located site ((expressions lawful context elements).bind fun _ =>
      onSpace (Space.moves_allocateArray _))
  | .object site members => by
    refine located site (onSpace_fork context site fun inner => ?_)
    refine (onSpace (Space.moves_allocateObject _)).bind fun object => ?_
    refine (onSpace (Space.moves_define _ _ _ _)).bind fun _ => ?_
    exact (properties lawful inner object members).bind fun _ => pure object
  | .nested site inner => located site (expression lawful context inner)
  | .function site parameters body =>
    located site (lift (allocateFunction ⟨context, parameters, body, none⟩))
  | .call site callee arguments =>
    located site ((expression lawful context callee).bind fun _ =>
      (expressions lawful context arguments).bind fun _ => lift (lawful.call _ _ _).weaken)
  | .jump _ _ => throw _
  | .range _ _ _ => throw _

theorem expressions (lawful : env.Lawful law) (context : ContextRef) :
    (trees : List Expression) → Upholds law [context] (Eval.expressions env context trees)
  | [] => pure _
  | first :: rest => (expression lawful context first).bind fun _ =>
    (expressions lawful context rest).bind fun _ => pure _

theorem properties (lawful : env.Lawful law) (context : ContextRef) (object : Value) :
    (trees : List (String × Expression)) →
    Upholds law [context] (Eval.properties env context object trees)
  | [] => pure _
  | (key, first) :: rest => by
    refine (expression lawful context first).bind fun value => ?_
    refine (onSpace (Space.moves_nameFunction _ _)).bind fun _ => ?_
    refine (onSpace (Space.moves_assignProperty _ _ _)).bind fun _ => ?_
    exact properties lawful context object rest

theorem scope (lawful : env.Lawful law) (context : ContextRef) :
    (tree : Scope) → Upholds law [context] (Eval.scope env context tree)
  | .mk site inner => onSpace_fork context site fun below => controls lawful below inner

theorem controls (lawful : env.Lawful law) (context : ContextRef) :
    (trees : List Control) → Upholds law [context] (Eval.controls env context trees)
  | [] => pure _
  | .statement site body :: rest =>
    (located site (expression lawful context body)).bind fun _ => controls lawful context rest
  | .conditional inner :: rest =>
    (conditional lawful context inner).bind fun _ => controls lawful context rest

theorem conditional (lawful : env.Lawful law) (context : ContextRef) :
    (tree : Conditional) → Upholds law [context] (Eval.conditional env context tree)
  | .ifThen site condition body alternative => by
    refine (expression lawful context condition).bind fun value => located site ?_
    split
    · exact scope lawful context body
    · exact otherwise lawful context alternative
  | .otherwise site body => located site (scope lawful context body)
  | .whileLoop site condition body =>
    located site (repeatWhile ((expression lawful context condition).map _)
      (scope lawful context body) _)
  | .forIn site item iterable (.mk bodySite body) => by
    refine located site ((expression lawful context iterable).bind fun value => ?_)
    refine (lift (loopItems value)).bind fun items => forEach (fun item => ?_) items
    refine onSpace_fork context bodySite fun inner => ?_
    exact (onSpace (Space.moves_define _ _ _ _)).bind fun _ => controls lawful inner body
  | .attempt site body trees =>
    located site (lawful.rescue (scope lawful context body) fun error =>
      handlers lawful context error trees)

theorem otherwise (lawful : env.Lawful law) (context : ContextRef) :
    (tree : Option Conditional) → Upholds law [context] (Eval.otherwise env context tree)
  | none => pure _
  | some inner => conditional lawful context inner

theorem handlers (lawful : env.Lawful law) (context : ContextRef) (error : ScriptError) :
    (trees : List Handler) → Upholds law [context] (Eval.handlers env context error trees)
  | [] => throw _
  | .mk site code parameter (.mk bodySite body) :: rest => by
    rw [Eval.handlers.eq_def]
    dsimp only
    split
    · refine onSpace_fork context site fun inner => ?_
      cases parameter with
      | none => exact controls lawful inner body
      | some name =>
        refine (onSpace (Space.moves_allocateObject _)).bind fun object => ?_
        exact (onSpace (Space.moves_define _ _ _ _)).bind fun _ => controls lawful inner body
    · exact handlers lawful context error rest

end

end Trees

end Upholds

end ScriptEngine
