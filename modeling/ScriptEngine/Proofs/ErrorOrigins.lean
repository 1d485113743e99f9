import ScriptEngine.Proofs.RaisedErrors

set_option autoImplicit false

namespace ScriptEngine

/-- The nodes that have a place of their own. An expression or an operand is asked for its value, or
on the left of an assignment for the place that it means. -/
inductive Node where
  | statement (site : SourceInfo) (body : Expression)
  | expression (tree : Expression)
  | operand (tree : Operand)
  | expressionPlace (tree : Expression)
  | operandPlace (tree : Operand)
  | conditional (tree : Conditional)

def Control.node : Control → Node
  | .statement site body => .statement site body
  | .conditional inner => .conditional inner

def Scope.nodes (scope : Scope) : List Node := scope.controls.map Control.node

def Handler.nodes : Handler → List Node
  | .mk _ _ _ body => body.nodes

def Operand.bounds : Operand → List Node
  | .range _ lower upper => (lower.toList ++ upper.toList).map .expression
  | _ => []

def Operand.parts : Operand → List Node
  | .array _ elements => elements.map .expression
  | .object _ properties => properties.map fun property => .expression property.2
  | .nested _ inner => [.expression inner]
  | .call _ callee arguments => (callee :: arguments).map .expression
  | .literal _ _ | .var _ _ | .function _ _ _ | .jump _ _ | .range _ _ _ => []

/-- The operands, the place that the left one means and the bounds of a range on the right. -/
def Expression.parts : Expression → List Node
  | .node _ _ left right =>
    left.toList.map .operandPlace ++ (left.toList ++ right.toList).map .operand ++
      right.toList.flatMap Operand.bounds

def Conditional.parts : Conditional → List Node
  | .ifThen _ condition body alternative =>
    .expression condition :: body.nodes ++ alternative.toList.map .conditional
  | .otherwise _ body => body.nodes
  | .whileLoop _ condition body => .expression condition :: body.nodes
  | .forIn _ _ iterable body => .expression iterable :: body.nodes
  | .attempt _ body handlers => body.nodes ++ handlers.flatMap Handler.nodes

namespace Node

def site : Node → SourceInfo
  | .statement site _ => site
  | .expression tree | .expressionPlace tree => tree.site
  | .operand tree | .operandPlace tree => tree.site
  | .conditional tree => tree.site

def parts : Node → List Node
  | .statement _ body => [.expression body]
  | .expression tree | .expressionPlace tree => tree.parts
  | .operand tree => tree.parts
  | .operandPlace (.nested _ inner) => [.expressionPlace inner]
  | .operandPlace _ => []
  | .conditional tree => tree.parts

/-- The parts whose errors pass the node by: the condition of an `if`, and the object of a property
that is a place. -/
def passed : Node → List Node
  | .conditional (.ifThen _ condition _ _) => [.expression condition]
  | .expressionPlace (.node _ .child left _) => left.toList.map .operand
  | _ => []

variable {σ τ : Type}

def run (env : Environment σ τ) (context : ContextRef) : Node → Run σ τ Exit Unit
  | .statement site body => (fun _ => ()) <$> Run.located site (Eval.expression env context body)
  | .expression tree => (fun _ => ()) <$> Eval.expression env context tree
  | .operand tree => (fun _ => ()) <$> Eval.operand env context tree
  | .expressionPlace tree => (fun _ => ()) <$> Eval.expressionPlace env context tree
  | .operandPlace tree => (fun _ => ()) <$> Eval.place env context tree
  | .conditional tree => Eval.conditional env context tree

/-- Parts are smaller than the node that they belong to. -/
noncomputable def size : Node → Nat
  | .statement _ body => 1 + sizeOf body
  | .expression tree | .expressionPlace tree => sizeOf tree
  | .operand tree | .operandPlace tree => sizeOf tree
  | .conditional tree => sizeOf tree

end Node

section Sizes

variable {below : Node}

theorem Control.size_node (tree : Control) : tree.node.size ≤ sizeOf tree := by
  cases tree with
  | statement site body => simp [node, Node.size]
  | conditional inner => simp [node, Node.size]

theorem Scope.size_node {tree : Scope} (member : below ∈ tree.nodes) :
    below.size < sizeOf tree := by
  obtain ⟨site, trees⟩ := tree
  obtain ⟨control, listed, rfl⟩ := List.mem_map.mp member
  have smaller := control.size_node
  have within := List.sizeOf_lt_of_mem listed
  simp only [Scope.controls, Scope.mk.sizeOf_spec] at within ⊢
  omega

theorem Handler.size_node {tree : Handler} (member : below ∈ tree.nodes) :
    below.size < sizeOf tree := by
  obtain ⟨site, code, parameter, body⟩ := tree
  have smaller := Scope.size_node member
  simp only [Handler.mk.sizeOf_spec]
  omega

private theorem size_listed {trees : List Expression} (member : below ∈ trees.map .expression) :
    below.size < sizeOf trees := by
  obtain ⟨tree, listed, rfl⟩ := List.mem_map.mp member
  exact List.sizeOf_lt_of_mem listed

theorem Operand.size_part {tree : Operand} (member : below ∈ tree.parts) :
    below.size < sizeOf tree := by
  cases tree with
  | literal | var | function | jump | range => cases member
  | nested site inner =>
    obtain rfl := List.mem_singleton.mp member
    simp only [Node.size, Operand.nested.sizeOf_spec]
    omega
  | array site elements =>
    have smaller := size_listed member
    simp only [Operand.array.sizeOf_spec]
    omega
  | object site properties =>
    obtain ⟨⟨key, value⟩, listed, rfl⟩ := List.mem_map.mp member
    have smaller := List.sizeOf_lt_of_mem listed
    simp only [Node.size, Operand.object.sizeOf_spec, Prod.mk.sizeOf_spec] at smaller ⊢
    omega
  | call site callee arguments =>
    have smaller : below.size < sizeOf (callee :: arguments) := size_listed member
    simp only [Operand.call.sizeOf_spec, List.cons.sizeOf_spec] at smaller ⊢
    omega

theorem Operand.size_bound {tree : Operand} (member : below ∈ tree.bounds) :
    below.size < sizeOf tree := by
  cases tree with
  | range site lower upper =>
    obtain ⟨bound, listed, rfl⟩ := List.mem_map.mp member
    simp only [Node.size, Operand.range.sizeOf_spec]
    rcases List.mem_append.mp listed with first | second
    · obtain rfl := Option.mem_toList.mp first
      simp only [Option.some.sizeOf_spec]
      omega
    · obtain rfl := Option.mem_toList.mp second
      simp only [Option.some.sizeOf_spec]
      omega
  | literal | var | array | object | nested | function | call | jump => cases member

theorem Expression.size_part {tree : Expression} (member : below ∈ tree.parts) :
    below.size < sizeOf tree := by
  obtain ⟨site, op, left, right⟩ := tree
  have present {side : Option Operand} {inner : Operand} (there : inner ∈ side.toList) :
      sizeOf inner < sizeOf side := by
    obtain rfl := Option.mem_toList.mp there
    simp only [Option.some.sizeOf_spec]
    omega
  simp only [Expression.node.sizeOf_spec]
  rcases List.mem_append.mp member with either | bound
  · rcases List.mem_append.mp either with place | value
    · obtain ⟨inner, there, rfl⟩ := List.mem_map.mp place
      have smaller := present there
      simp only [Node.size]
      omega
    · obtain ⟨inner, there, rfl⟩ := List.mem_map.mp value
      simp only [Node.size]
      rcases List.mem_append.mp there with first | second
      · have smaller := present first
        omega
      · have smaller := present second
        omega
  · obtain ⟨inner, there, within⟩ := List.mem_flatMap.mp bound
    have smaller := present there
    have smallest := Operand.size_bound within
    omega

theorem Conditional.size_part {tree : Conditional} (member : below ∈ tree.parts) :
    below.size < sizeOf tree := by
  cases tree with
  | ifThen site condition body alternative =>
    simp only [Conditional.ifThen.sizeOf_spec]
    rcases List.mem_append.mp member with either | other
    · rcases List.mem_cons.mp either with rfl | inside
      · simp only [Node.size]
        omega
      · have smaller := Scope.size_node inside
        omega
    · obtain ⟨inner, there, rfl⟩ := List.mem_map.mp other
      obtain rfl := Option.mem_toList.mp there
      simp only [Node.size, Option.some.sizeOf_spec]
      omega
  | otherwise site body =>
    have smaller := Scope.size_node member
    simp only [Conditional.otherwise.sizeOf_spec]
    omega
  | whileLoop site condition body | forIn site item condition body =>
    simp only [Conditional.whileLoop.sizeOf_spec, Conditional.forIn.sizeOf_spec]
    rcases List.mem_cons.mp member with rfl | inside
    · simp only [Node.size]
      omega
    · have smaller := Scope.size_node inside
      omega
  | attempt site body handlers =>
    simp only [Conditional.attempt.sizeOf_spec]
    rcases List.mem_append.mp member with inside | caught
    · have smaller := Scope.size_node inside
      omega
    · obtain ⟨handler, listed, within⟩ := List.mem_flatMap.mp caught
      have smaller := List.sizeOf_lt_of_mem listed
      have smallest := Handler.size_node within
      omega

theorem Node.size_part {node : Node} (member : below ∈ node.parts) : below.size < node.size := by
  cases node with
  | statement site body =>
    obtain rfl := List.mem_singleton.mp member
    simp only [size]
    omega
  | expression tree | expressionPlace tree => exact tree.size_part member
  | operand tree => exact tree.size_part member
  | conditional tree => exact tree.size_part member
  | operandPlace tree =>
    cases tree with
    | nested site inner =>
      obtain rfl := List.mem_singleton.mp member
      simp only [size, Operand.nested.sizeOf_spec]
      omega
    | literal | var | array | object | function | call | jump | range => cases member

end Sizes

section Nodes

variable {σ τ : Type}

/-- How an error can come to a node. -/
inductive Reaches (env : Environment σ τ) : Node → RunState σ τ → ScriptError → Prop where
  /-- The node raises it. -/
  | raised (node : Node) (last : RunState σ τ) (kind : ErrorKind) :
      Reaches env node last (.ofKind kind)
  /-- Nothing binds the name that the operand is. -/
  | unbound (site : SourceInfo) (named : Variable) (last : RunState σ τ) (kind : ErrorKind) :
      Reaches env (.operand (.var site named)) last ((ScriptError.ofKind kind).locate named.site)
  /-- A part of the node ends with it. -/
  | part {node below : Node} (member : below ∈ node.parts) {context : ContextRef}
      {start last : RunState σ τ} {error : ScriptError}
      (ended : below.run env context start = (.error (.raised error), last)) :
      Reaches env node last error
  /-- The call that the operand makes ends with it. -/
  | call {site : SourceInfo} {callee : Expression} {arguments : List Expression} {value : Value}
      {values : List Value} {start last : RunState σ τ} {error : ScriptError}
      (ended : env.call value values (if site.isEmpty then callee.site else site) start =
        (.error (.raised error), last)) :
      Reaches env (.operand (.call site callee arguments)) last error
  /-- The write that the expression asks for ends with it. -/
  | write {tree : Expression} {place : Place} {value : Value} {start last : RunState σ τ}
      {error : ScriptError}
      (ended : env.write place value tree.site start = (.error (.raised error), last)) :
      Reaches env (.expression tree) last error

namespace Raises

variable {env : Environment σ τ} {node : Node}

theorem part {below : Node} (member : below ∈ node.parts) (context : ContextRef) :
    Raises (Reaches env node) (below.run env context) := by
  refine of_ends fun start exit last error ended raised => ?_
  cases Exit.eq_of_error? raised
  exact .part member ended

theorem call (site : SourceInfo) (callee : Expression) (arguments : List Expression)
    (value : Value) (values : List Value) :
    Raises (Reaches env (.operand (.call site callee arguments)))
      (env.call value values (if site.isEmpty then callee.site else site)) := by
  refine of_ends fun start halt last error ended raised => ?_
  cases Halt.eq_of_error? raised
  exact .call ended

theorem write (tree : Expression) (place : Place) (value : Value) :
    Raises (Reaches env (.expression tree)) (env.write place value tree.site) := by
  refine of_ends fun start halt last error ended raised => ?_
  cases Halt.eq_of_error? raised
  exact .write ended

theorem fresh : Fresh (Reaches env node) := fun last kind => .raised node last kind

theorem operandPart {tree : Operand} (member : .operand tree ∈ node.parts)
    (context : ContextRef) : Raises (Reaches env node) (Eval.operand env context tree) :=
  (part member context).of_map

theorem expressionPart {tree : Expression} (member : .expression tree ∈ node.parts)
    (context : ContextRef) : Raises (Reaches env node) (Eval.expression env context tree) :=
  (part member context).of_map

theorem indexPlace {errors : RunState σ τ → ScriptError → Prop} (fresh : Fresh errors)
    {target : Run σ τ Exit Value} (targets : Raises errors target) {selector : Eval.Selector σ τ}
    (keys : ∀ key, selector = .key key → Raises errors key)
    (bounds : ∀ lower upper, selector = .range lower upper →
      Raises errors lower ∧ Raises errors upper) :
    Raises errors (Eval.indexPlace target selector) := by
  refine targets.bind fun value => ?_
  cases selector with
  | missing => exact stop rfl
  | key key => exact (keys key rfl).bind fun _ => lift (keyPlace fresh _ _)
  | range lower upper =>
    obtain ⟨lowers, uppers⟩ := bounds lower upper rfl
    cases value with
    | array array => exact lowers.bind fun _ => uppers.bind fun _ => lift (rangePlace fresh _ _ _)
    | undefined | null | bool | int | float | string | object | callable =>
      exact raised fresh _

theorem strict {errors : RunState σ τ → ScriptError → Prop} (fresh : Fresh errors)
    (op : BinaryOperator) {left right : Run σ τ Exit Value} (lefts : Raises errors left)
    (rights : Raises errors right) : Raises errors (Eval.strict op left right) :=
  lefts.bind fun _ => rights.bind fun _ => lift (binary fresh op _ _)

theorem compound {errors : RunState σ τ → ScriptError → Prop} (fresh : Fresh errors)
    {write : Place → Value → SourceInfo → Run σ τ Halt Unit} {site : SourceInfo}
    (writes : ∀ place value, Raises errors (write place value site)) (op : Arithmetic)
    {place : Run σ τ Exit Place} {amount : Run σ τ Exit Value} (places : Raises errors place)
    (amounts : Raises errors amount) :
    Raises errors (Eval.compound write op place amount site) := by
  refine places.bind fun found => (lift (readPlace fresh found)).bind fun current => ?_
  refine amounts.bind fun amount => lift ((binary fresh _ current amount).bind fun updated => ?_)
  exact (writes found updated).bind fun _ => pure updated

theorem required (op : Operator) {tree : Option Operand}
    (members : ∀ inner, tree = some inner → .operand inner ∈ node.parts) (context : ContextRef) :
    Raises (Reaches env node) (Eval.required env context op tree) := by
  cases tree with
  | none => exact stop rfl
  | some inner => exact operandPart (members inner rfl) context

theorem requiredPlace (op : Operator) {tree : Option Operand}
    (members : ∀ inner, tree = some inner → .operandPlace inner ∈ node.parts)
    (context : ContextRef) :
    Raises (Reaches env node) (Eval.requiredPlace env context op tree) := by
  cases tree with
  | none => exact stop rfl
  | some inner => exact (part (members inner rfl) context).of_map

theorem rangeBound {tree : Option Expression}
    (members : ∀ inner, tree = some inner → .expression inner ∈ node.parts)
    (context : ContextRef) :
    Raises (Reaches env node) (Eval.rangeBound env context tree) := by
  cases tree with
  | none => exact pure _
  | some inner =>
    exact (expressionPart (members inner rfl) context).bind fun value =>
      (lift (orRaise fresh (plain_expectInt value))).bind fun _ => pure _

theorem selected {right : Option Operand}
    (operands : ∀ inner, right = some inner → .operand inner ∈ node.parts)
    (bounds : ∀ inner, right = some inner → ∀ below ∈ inner.bounds, below ∈ node.parts)
    (context : ContextRef) {target : Run σ τ Exit Value}
    (targets : Raises (Reaches env node) target) :
    Raises (Reaches env node) (Eval.indexPlace target (Eval.selector env context right)) := by
  refine indexPlace fresh targets (fun key selects => ?_) fun lower upper selects => ?_
  · cases right with
    | none => cases selects
    | some inner =>
      cases inner with
      | range => cases selects
      | literal | var | array | object | nested | function | call | jump =>
        cases selects
        exact operandPart (operands _ rfl) context
  · cases right with
    | none => cases selects
    | some inner =>
      cases inner with
      | range site first second =>
        cases selects
        have within := bounds _ rfl
        refine ⟨rangeBound (fun tree same => within _ ?_) context,
          rangeBound (fun tree same => within _ ?_) context⟩
        · simp [Operand.bounds, same]
        · simp [Operand.bounds, same]
      | literal | var | array | object | nested | function | call | jump => cases selects

section Parts

variable (tree : Expression) (inner : Operand)

private theorem left_mem (same : tree.left = some inner) : .operand inner ∈ tree.parts := by
  obtain ⟨site, op, left, right⟩ := tree
  cases same
  simp [Expression.parts]

private theorem right_mem (same : tree.right = some inner) : .operand inner ∈ tree.parts := by
  obtain ⟨site, op, left, right⟩ := tree
  cases same
  simp [Expression.parts]

private theorem place_mem (same : tree.left = some inner) : .operandPlace inner ∈ tree.parts := by
  obtain ⟨site, op, left, right⟩ := tree
  cases same
  simp [Expression.parts]

private theorem bound_mem (same : tree.right = some inner) (below : Node)
    (member : below ∈ inner.bounds) : below ∈ tree.parts := by
  obtain ⟨site, op, left, right⟩ := tree
  cases same
  simp [Expression.parts, member]

end Parts

theorem expression (env : Environment σ τ) (context : ContextRef) (tree : Expression) :
    Raises (Located tree.site (Reaches env (.expression tree)))
      (Eval.expression env context tree) := by
  obtain ⟨site, op, left, right⟩ := tree
  have first : Raises (Reaches env (.expression (.node site op left right)))
      (Eval.required env context op left) :=
    required op (left_mem (.node site op left right)) context
  have second : Raises (Reaches env (.expression (.node site op left right)))
      (Eval.required env context op right) :=
    required op (right_mem (.node site op left right)) context
  have place : Raises (Reaches env (.expression (.node site op left right)))
      (Eval.requiredPlace env context op left) :=
    requiredPlace op (place_mem (.node site op left right)) context
  have writes : ∀ place value, Raises (Reaches env (.expression (.node site op left right)))
      (env.write place value site) := write (.node site op left right)
  rw [Eval.expression.eq_def]
  refine located site ?_
  cases op with
  | plain =>
    cases left with
    | none => exact pure _
    | some inner => exact first
  | assign =>
    cases left with
    | none => exact stop rfl
    | some goal =>
      cases right with
      | none => exact stop rfl
      | some origin =>
        dsimp only
        cases Eval.declaration? goal with
        | some declared =>
          refine Raises.bind second fun value => ?_
          exact (onSpace _).bind fun _ => (onSpace _).bind fun _ => pure value
        | none =>
          refine Raises.bind place fun found => Raises.bind second fun value => ?_
          exact (lift (writes found value)).bind fun _ => pure value
  | ret =>
    cases right with
    | none => exact stop rfl
    | some inner => exact Raises.bind second fun value => stop rfl
  | raise =>
    refine second.bind fun value => lift_askSpace_bind fun space error thrown => ?_
    obtain ⟨kind, rfl⟩ := plain_thrownError thrown
    exact raised fresh kind
  | not => exact second.bind fun value => pure _
  | and =>
    refine first.bind fun value => ?_
    split
    · exact second.bind fun value => pure _
    · exact pure _
  | or =>
    refine first.bind fun value => ?_
    split
    · exact pure _
    · exact second.bind fun value => pure _
  | eq | ne | lt | le | gt | ge | add | sub | mul | div | rem => exact strict fresh _ first second
  | increment | decrement => exact compound fresh writes _ place (pure _)
  | addAssign | subAssign | mulAssign | divAssign | remAssign =>
    exact compound fresh writes _ place second
  | child =>
    exact first.bind fun object => (lift (askSpace _)).bind fun key =>
      lift (readProperty fresh object key)
  | index =>
    exact (selected (right_mem (.node site .index left right))
      (bound_mem (.node site .index left right)) context first).bind fun found =>
        lift (readPlace fresh found)
  | append =>
    exact first.bind fun target => second.bind fun value => lift (appendTo fresh target value)

theorem expressions {trees : List Expression}
    (members : ∀ tree ∈ trees, .expression tree ∈ node.parts) (context : ContextRef) :
    Raises (Reaches env node) (Eval.expressions env context trees) := by
  induction trees with
  | nil => exact pure _
  | cons first rest ih =>
    refine (expressionPart (members first (List.mem_cons_self ..)) context).bind fun _ => ?_
    exact (ih fun tree member => members tree (List.mem_cons_of_mem _ member)).bind fun _ => pure _

theorem properties {trees : List (String × Expression)}
    (members : ∀ tree ∈ trees, .expression tree.2 ∈ node.parts) (context : ContextRef)
    (object : Value) : Raises (Reaches env node) (Eval.properties env context object trees) := by
  induction trees with
  | nil => exact pure _
  | cons first rest ih =>
    refine (expressionPart (members first (List.mem_cons_self ..)) context).bind fun value => ?_
    refine (onSpace _).bind fun _ => (onSpace _).bind fun _ => ?_
    exact ih fun tree member => members tree (List.mem_cons_of_mem _ member)

theorem sequence {errors : RunState σ τ → ScriptError → Prop} {trees : List Control}
    (context : ContextRef)
    (each : ∀ tree ∈ trees, Raises errors (tree.node.run env context)) :
    Raises errors (Eval.controls env context trees) := by
  induction trees with
  | nil => exact pure _
  | cons first rest ih =>
    have here := each first (List.mem_cons_self ..)
    have others := ih fun tree member => each tree (List.mem_cons_of_mem _ member)
    cases first with
    | statement site body => exact here.of_map.bind fun _ => others
    | conditional inner => exact here.bind fun _ => others

theorem controls {trees : List Control} (members : ∀ tree ∈ trees, tree.node ∈ node.parts)
    (context : ContextRef) : Raises (Reaches env node) (Eval.controls env context trees) :=
  sequence context fun tree member => part (members tree member) context

theorem scope {tree : Scope} (members : ∀ below ∈ tree.nodes, below ∈ node.parts)
    (context : ContextRef) : Raises (Reaches env node) (Eval.scope env context tree) := by
  obtain ⟨site, trees⟩ := tree
  refine (onSpace _).bind fun inner => controls (fun tree member => members _ ?_) inner
  exact List.mem_map_of_mem member

/-- A handler that takes no error lets it pass. -/
theorem handlers {trees : List Handler} (members : ∀ tree ∈ trees, ∀ below ∈ tree.nodes,
      below ∈ node.parts) (context : ContextRef) {error : ScriptError} {state : RunState σ τ}
    (reaches : Reaches env node state error) :
    RaisesAt (Reaches env node) (Eval.handlers env context error trees state) := by
  induction trees with
  | nil =>
    intro other same
    cases same
    exact reaches
  | cons first rest ih =>
    obtain ⟨site, code, parameter, ⟨bodySite, body⟩⟩ := first
    have inside : ∀ inner, Raises (Reaches env node) (Eval.controls env inner body) :=
      controls fun tree member => members _ (List.mem_cons_self ..) _ (List.mem_map_of_mem member)
    rw [Eval.handlers.eq_def]
    dsimp only
    split
    · refine ((onSpace _).bind fun inner => ?_) state
      cases parameter with
      | none => exact inside inner
      | some name => exact (onSpace _).bind fun _ => (onSpace _).bind fun _ => inside inner
    · exact ih fun tree member => members tree (List.mem_cons_of_mem _ member)

theorem operand (env : Environment σ τ) (context : ContextRef) (tree : Operand) :
    Raises (Located tree.site (Reaches env (.operand tree))) (Eval.operand env context tree) := by
  cases tree with
  | literal site value => exact pure _
  | var site named =>
    exact located site (lift (variableValue (fun last kind => .unbound _ _ _ _) _))
  | array site elements =>
    have each : Raises (Reaches env (.operand (.array site elements)))
        (Eval.expressions env context elements) :=
      expressions (fun tree member => List.mem_map_of_mem member) context
    exact located site (each.bind fun _ => onSpace _)
  | object site members =>
    have each : ∀ inner object, Raises (Reaches env (.operand (.object site members)))
        (Eval.properties env inner object members) :=
      properties fun tree member => List.mem_map.mpr ⟨tree, member, rfl⟩
    refine located site ((onSpace _).bind fun inner => (onSpace _).bind fun object => ?_)
    exact (onSpace _).bind fun _ => (each inner object).bind fun _ => pure object
  | nested site inner => exact located site (expressionPart (List.mem_singleton_self _) context)
  | function site parameters body => exact located site (lift (ofSpace _))
  | call site callee arguments =>
    have given : Raises (Reaches env (.operand (.call site callee arguments)))
        (Eval.expressions env context arguments) :=
      expressions (fun tree member => List.mem_map_of_mem (List.mem_cons_of_mem _ member)) context
    refine located site
      (Raises.bind (expressionPart (List.mem_cons_self ..) context) fun value => ?_)
    exact given.bind fun values => lift (call site callee arguments value values)
  | jump site direction => exact stop rfl
  | range site lower upper => exact stop rfl

theorem operandPlace (env : Environment σ τ) (context : ContextRef) (tree : Operand) :
    Raises (Located tree.site (Reaches env (.operandPlace tree)))
      (Eval.place env context tree) := by
  cases tree with
  | var site named => exact located site (lift (askSpace _))
  | nested site inner =>
    have inside : Raises (Reaches env (.operandPlace (.nested site inner)))
        ((Node.expressionPlace inner).run env context) := part (List.mem_singleton_self _) context
    exact located site inside.of_map
  | literal site | array site | object site | function site | call site | jump site
  | range site => exact located site (raised fresh _)

theorem expressionPlace (context : ContextRef) {site : SourceInfo} {op : Operator}
    {left right : Option Operand} (other : op ≠ .child) :
    Raises (Located site (Reaches env (.expressionPlace (.node site op left right))))
      (Eval.expressionPlace env context (.node site op left right)) := by
  have first : Raises (Reaches env (.expressionPlace (.node site op left right)))
      (Eval.required env context op left) :=
    required op (left_mem (.node site op left right)) context
  have place : Raises (Reaches env (.expressionPlace (.node site op left right)))
      (Eval.requiredPlace env context op left) :=
    requiredPlace op (place_mem (.node site op left right)) context
  rw [Eval.expressionPlace.eq_def]
  cases op with
  | plain =>
    refine located site ?_
    cases left with
    | none => exact raised fresh _
    | some inner => exact place
  | child => exact absurd rfl other
  | index =>
    exact located site (selected (right_mem (.node site .index left right))
      (bound_mem (.node site .index left right)) context first)
  | assign | ret | raise | not | eq | ne | lt | le | gt | ge | and | or | add | sub | mul | div
  | rem | increment | decrement | addAssign | subAssign | mulAssign | divAssign | remAssign
  | append => exact located site (raised fresh _)

theorem conditional (caught : env.rescue = Run.rescuing) (context : ContextRef)
    {tree : Conditional} (guarded : (Node.conditional tree).passed = []) :
    Raises (Located tree.site (Reaches env (.conditional tree)))
      (Eval.conditional env context tree) := by
  cases tree with
  | ifThen => cases guarded
  | otherwise site body =>
    refine located site (scope (fun below member => ?_) context)
    exact member
  | whileLoop site condition body =>
    have conditions : Raises (Reaches env (.conditional (.whileLoop site condition body)))
        (Eval.expression env context condition) := expressionPart (List.mem_cons_self ..) context
    have bodies : Raises (Reaches env (.conditional (.whileLoop site condition body)))
        (Eval.scope env context body) := scope (fun _ => List.mem_cons_of_mem _) context
    exact located site (repeatWhile (conditions.map _) bodies _)
  | forIn site item iterable body =>
    obtain ⟨bodySite, trees⟩ := body
    have items :
        Raises (Reaches env (.conditional (.forIn site item iterable (.mk bodySite trees))))
          (Eval.expression env context iterable) :=
      expressionPart (List.mem_cons_self ..) context
    have bodies : ∀ inner,
        Raises (Reaches env (.conditional (.forIn site item iterable (.mk bodySite trees))))
          (Eval.controls env inner trees) :=
      controls fun tree member => List.mem_cons_of_mem _ (List.mem_map_of_mem member)
    refine located site (items.bind fun value => ?_)
    refine Raises.bind (lift (loopItems fresh value)) fun values => forEach (fun item => ?_) values
    exact (onSpace _).bind fun inner => (onSpace _).bind fun _ => bodies inner
  | attempt site body trees =>
    have bodies : Raises (Reaches env (.conditional (.attempt site body trees)))
        (Eval.scope env context body) := scope (fun _ => List.mem_append_left _) context
    rw [Eval.conditional.eq_def]
    refine located site ?_
    rw [caught]
    refine rescuing bodies fun error state reaches => handlers ?_ context reaches
    exact fun tree member below within =>
      List.mem_append_right _ (List.mem_flatMap.mpr ⟨tree, member, within⟩)

end Raises

/-- A node that is run first passes its errors on, and what follows has errors of its own. -/
private theorem raised_of_bind {α β : Type} {first : Run σ τ Exit α} {next : α → Run σ τ Exit β}
    {state last : RunState σ τ} {error : ScriptError}
    (ended : (first >>= next) state = (.error (.raised error), last)) :
    first state = (.error (.raised error), last) ∨
      ∃ value middle, next value middle = (.error (.raised error), last) := by
  rw [Act.bind_apply] at ended
  split at ended
  · exact Or.inr ⟨_, _, ended⟩
  · rename_i stopped
    cases ended
    exact Or.inl stopped

namespace Node

variable {env : Environment σ τ} {context : ContextRef} {state last : RunState σ τ}
  {error : ScriptError}

theorem map_raised_iff {α β : Type} {run : Run σ τ Exit α} {change : α → β} :
    (change <$> run) state = (.error (.raised error), last) ↔
      run state = (.error (.raised error), last) := by
  rw [Act.map_apply]
  rcases run state with ⟨exit | value, final⟩
  · simp [Except.map]
  · simp [Except.map]

private theorem raised_ifThen {site : SourceInfo} {condition : Expression} {body : Scope}
    {alternative : Option Conditional}
    (ended : Eval.conditional env context (.ifThen site condition body alternative) state =
      (.error (.raised error), last)) :
    Eval.expression env context condition state = (.error (.raised error), last) ∨
      Located site (Reaches env (.conditional (.ifThen site condition body alternative))) last
        error := by
  refine (raised_of_bind ended).imp_right fun ⟨value, middle, rest⟩ => ?_
  have inside : Raises (Reaches env (.conditional (.ifThen site condition body alternative)))
      (if value.isTruthy then Eval.scope env context body
        else Eval.otherwise env context alternative) := by
    split
    · refine Raises.scope (fun below member => ?_) context
      exact List.mem_append_left _ (List.mem_cons_of_mem _ member)
    · cases alternative with
      | none => exact .pure _
      | some other =>
        have member : .conditional other ∈
            (Node.conditional (.ifThen site condition body (some other))).parts :=
          List.mem_append_right _ (List.mem_singleton_self _)
        exact .part member context
  exact (Raises.located site inside).elim rest rfl

private theorem raised_property {site : SourceInfo} {left right : Option Operand}
    (ended : Eval.expressionPlace env context (.node site .child left right) state =
      (.error (.raised error), last)) :
    (∃ inner, left = some inner ∧
      Eval.operand env context inner state = (.error (.raised error), last)) ∨
      Located site (Reaches env (.expressionPlace (.node site .child left right))) last error := by
  rcases raised_of_bind ended with object | ⟨object, middle, rest⟩
  · cases left with
    | none => cases object
    | some inner => exact Or.inl ⟨inner, rfl, object⟩
  · refine Or.inr ?_
    rcases raised_of_bind rest with named | ⟨key, middle, rest⟩
    · have silent : Raises (fun _ _ => False)
          (Run.lift (Run.askSpace fun _ => Eval.keyName right) : Run σ τ Exit String) :=
        .lift (.askSpace _)
      exact (silent.elim named rfl).elim
    · have refused : Raises (Reaches env (.expressionPlace (.node site .child left right)))
          (Run.lift (Run.orRaise (Eval.propertyPlace object key))) :=
        .lift (.orRaise Raises.fresh (plain_propertyPlace object key))
      exact (Raises.located site refused).elim rest rfl

/-- What an error that leaves a node can be: one that passed the node by, or one that has come to
the node and now has its place, if it had none. -/
theorem raised_cases (caught : env.rescue = Run.rescuing) {node : Node}
    (ended : node.run env context state = (.error (.raised error), last)) :
    (∃ part ∈ node.passed, part.run env context state = (.error (.raised error), last)) ∨
      Located node.site (Reaches env node) last error := by
  cases node with
  | statement site body =>
    have inside : Raises (Reaches env (.statement site body)) (Eval.expression env context body) :=
      Raises.expressionPart (List.mem_singleton_self _) context
    exact Or.inr ((Raises.located site inside).elim (map_raised_iff.mp ended) rfl)
  | expression tree =>
    exact Or.inr ((Raises.expression env context tree).elim (map_raised_iff.mp ended) rfl)
  | operand tree =>
    exact Or.inr ((Raises.operand env context tree).elim (map_raised_iff.mp ended) rfl)
  | operandPlace tree =>
    exact Or.inr ((Raises.operandPlace env context tree).elim (map_raised_iff.mp ended) rfl)
  | conditional tree =>
    cases tree with
    | ifThen site condition body alternative =>
      refine (raised_ifThen ended).imp_left fun failed => ?_
      exact ⟨_, List.mem_singleton_self _, map_raised_iff.mpr failed⟩
    | otherwise | whileLoop | forIn | attempt =>
      exact Or.inr ((Raises.conditional caught context rfl).elim ended rfl)
  | expressionPlace tree =>
    obtain ⟨site, op, left, right⟩ := tree
    by_cases property : op = .child
    · subst property
      refine (raised_property (map_raised_iff.mp ended)).imp_left ?_
      rintro ⟨inner, rfl, failed⟩
      exact ⟨_, List.mem_singleton_self _, map_raised_iff.mpr failed⟩
    · exact Or.inr ((Raises.expressionPlace context property).elim (map_raised_iff.mp ended) rfl)

theorem passed_subset {node part : Node} (member : part ∈ node.passed) : part ∈ node.parts := by
  cases node with
  | conditional tree =>
    cases tree with
    | ifThen site condition body alternative =>
      obtain rfl := List.mem_singleton.mp member
      exact List.mem_cons_self ..
    | otherwise | whileLoop | forIn | attempt => cases member
  | expressionPlace tree =>
    obtain ⟨site, op, left, right⟩ := tree
    cases op with
    | child =>
      refine List.mem_append_left _ (List.mem_append_right _ ?_)
      obtain ⟨inner, there, rfl⟩ := List.mem_map.mp member
      exact List.mem_map_of_mem (List.mem_append_left _ there)
    | plain | assign | ret | raise | not | eq | ne | lt | le | gt | ge | and | or | add | sub | mul
    | div | rem | increment | decrement | addAssign | subAssign | mulAssign | divAssign
    | remAssign | index | append => cases member
  | statement | expression | operand | operandPlace => cases member

/-- What holds of the errors of calls and of writes, and of every error of which only the cause is
known, holds of the errors of all nodes, unless it depends on the place. -/
theorem raises {errors : RunState σ τ → ScriptError → Prop} (caught : env.rescue = Run.rescuing)
    (fresh : Fresh errors)
    (locate : ∀ {last error} site, errors last error → errors last (error.locate site))
    (calls : ∀ value values site, Raises errors (env.call value values site))
    (writes : ∀ place value site, Raises errors (env.write place value site)) (node : Node)
    (context : ContextRef) : Raises errors (node.run env context) := by
  induction size : node.size using Nat.strongRecOn generalizing node context with
  | ind bound ih =>
    subst size
    have inside {part : Node} (member : part ∈ node.parts) (context : ContextRef) :
        Raises errors (part.run env context) :=
      ih part.size (size_part member) part context rfl
    refine Raises.of_ends fun state exit last error ended leaves => ?_
    cases Exit.eq_of_error? leaves
    rcases raised_cases caught ended with ⟨part, member, failed⟩ | ⟨arrived, reaches, rfl⟩
    · exact (inside (passed_subset member) context).elim failed rfl
    · refine locate node.site ?_
      cases reaches with
      | raised => exact fresh last _
      | unbound => exact locate _ (fresh last _)
      | part member ended => exact (inside member _).elim ended rfl
      | call ended => exact (calls _ _ _).elim ended rfl
      | write ended => exact (writes _ _ _).elim ended rfl

end Node

end Nodes

end ScriptEngine
