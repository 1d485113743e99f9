import ScriptEngine.Eval.Loop
import ScriptEngine.Eval.Place

set_option autoImplicit false

namespace ScriptEngine

/-- What the meaning of a node depends on besides the state: the host, the classes, how places are
written, how bodies are finished, how errors are caught, how values are called and how often a loop
may pass. -/
structure Environment (σ τ : Type) : Type 1 where
  host : Host σ τ
  classes : ClassRegistry
  write : Place → Value → SourceInfo → Run σ τ Halt Unit
  finish : Run σ τ Exit Unit → Run σ τ Halt Value
  rescue : Run σ τ Exit Unit → (ScriptError → Run σ τ Exit Unit) → Run σ τ Exit Unit
  call : Value → List Value → SourceInfo → Run σ τ Halt Value
  bound : Nat

namespace Eval

variable {σ τ : Type}

/-- The code of a thrown value that does not name its own. -/
def defaultCode : String := "Error"

/-- The error that a thrown value stands for. An object gives its `type` as the code and its
`reason` as the message. -/
def thrownError (value : Value) (space : Space) : Except Fault ScriptError :=
  match value with
  | .object _ => do
    let code := match ← space.property? value "type" with
      | some (.string code) => code
      | _ => defaultCode
    let reason := (← space.property? value "reason").getD value
    return .ofKind (.thrown code (← space.display reason))
  | value => return .ofKind (.thrown defaultCode (← space.display value))

/-- The object by which a handler knows an error. -/
def errorObject (error : ScriptError) : SpaceM Value :=
  Space.allocateObject
    { properties := .ofList
        [("type", .string error.code.name), ("reason", .string error.message),
          ("line", .int (Int64.ofNat error.line))] }

/-- The property `key` of a value. Arrays and strings have a length. -/
def readProperty (value : Value) (key : String) : Run σ τ Halt Value :=
  match value with
  | .object _ => Run.askSpace fun space => return (← space.property? value key).getD .undefined
  | .array handle =>
    if key = "length" then
      Run.askSpace fun space => return .int (intOfLength (← space.array handle).size)
    else Run.raise (.ofKind (.typeMismatch "Object" value.typeName))
  | .string text =>
    if key = "length" then return .int (intOfLength text.length)
    else Run.raise (.ofKind (.typeMismatch "Object" value.typeName))
  | other => Run.raise (.ofKind (.typeMismatch "Object" other.typeName))

def keyName : Option Operand → Except Fault String
  | some (.var _ named) => .ok named.name
  | some (.literal _ (.string name)) => .ok name
  | some _ => .error .namelessKey
  | none => .error (.missingOperand .child)

/-- The mutability of a name that is declared where it stands. -/
def declared? : Hint → Option Mutability
  | .none => none
  | .mutable => some .mutable
  | .constant => some .immutable

/-- The name and mutability that an assignment declares rather than stores to. -/
def declaration? : Operand → Option (String × Mutability)
  | .var _ named => (declared? named.hint).map (named.name, ·)
  | _ => none

/-- A name stands for its value, or declares a binding without one. -/
def variableValue (context : ContextRef) (named : Variable) : Run σ τ Halt Value :=
  match declared? named.hint with
  | none => do
    match ← Run.askSpace (·.resolve context named.name) with
    | .ok value => return value
    | .error error => Run.raise (error.locate named.site)
  | some mutability => do
    Run.ofSpace (Space.define context named.name .undefined mutability)
    return .undefined

def appendTo (target value : Value) : Run σ τ Halt Value :=
  match target with
  | .array handle => do
    Run.ofSpace (Space.updateArray handle (·.push value))
    return target
  | other => Run.raise (.ofKind (.typeMismatch "Array" other.typeName))

/-- The items that a loop passes over: the elements of an array or the keys of an object. -/
def loopItems (value : Value) : Run σ τ Halt (List Value) :=
  match value with
  | .array handle => Run.askSpace fun space => return (← space.array handle).toList
  | .object handle =>
    Run.askSpace fun space =>
      return (← space.objectData handle).properties.keys.map .string
  | other => Run.raise (.ofKind (.typeMismatch "Array or Object" other.typeName))

/-- The int that a bound of a range has to be. -/
def expectInt : Value → Except ScriptError Int64
  | .int value => .ok value
  | other => .error (.ofKind (.typeMismatch "Int" other.typeName))

/-- What stands on the right of an index expression, ready to run. -/
inductive Selector (σ τ : Type) where
  | missing
  | range (lower upper : Run σ τ Exit (Option Int64))
  | key (key : Run σ τ Exit Value)

@[always_inline, inline]
def onSpace {α : Type} (operation : SpaceM α) : Run σ τ Exit α := Run.lift (Run.ofSpace operation)

def indexPlace (target : Run σ τ Exit Value) (selector : Selector σ τ) : Run σ τ Exit Place := do
  let target ← target
  match selector with
  | .missing => throw (.fault (.missingOperand .index))
  | .range lower upper =>
    match target with
    | .array array =>
      let lower ← lower
      let upper ← upper
      Run.lift (rangePlace array lower upper)
    | other => throw (.raised (.ofKind (.typeMismatch "Array" other.typeName)))
  | .key key => Run.lift (keyPlace target (← key))

/-- Both operands are evaluated before the operator applies. -/
def strict (op : BinaryOperator) (left right : Run σ τ Exit Value) : Run σ τ Exit Value := do
  let left ← left
  let right ← right
  Run.lift (binary op left right)

/-- The place is found first, then read, and written last. -/
def compound (write : Place → Value → SourceInfo → Run σ τ Halt Unit) (op : Arithmetic)
    (place : Run σ τ Exit Place) (amount : Run σ τ Exit Value) (site : SourceInfo) :
    Run σ τ Exit Value := do
  let place ← place
  let current ← Run.lift (readPlace place)
  let amount ← amount
  Run.lift (updatePlace write op place current amount site)

/-- A handler takes an error whose code it names; without a code it takes every error. -/
def handles (code : Option String) (error : ScriptError) : Bool :=
  match code with
  | none => true
  | some code => code == error.code.name

mutual

def expression (env : Environment σ τ) (context : ContextRef) :
    Expression → Run σ τ Exit Value
  | .node site op left right => Run.located site <|
    match op with
    | .plain =>
      match left with
      | some operand => Eval.operand env context operand
      | none => pure .undefined
    | .assign =>
      match left, right with
      | some target, some source =>
        match declaration? target with
        | some (name, mutability) => do
          let value ← Eval.operand env context source
          onSpace (Space.nameFunction value name)
          onSpace (Space.define context name value mutability)
          pure value
        | none => do
          let place ← Eval.place env context target
          let value ← Eval.operand env context source
          Run.lift (env.write place value site)
          pure value
      | _, _ => throw (.fault (.missingOperand .assign))
    | .ret =>
      match right with
      | some operand => do
        let value ← Eval.operand env context operand
        throw (.returned value)
      | none => throw (.returned .undefined)
    | .raise => do
      let value ← required env context .raise right
      let error ← Run.lift (Run.askSpace (thrownError value))
      throw (.raised error)
    | .not => do
      let value ← required env context .not right
      pure (.bool (!value.isTruthy))
    | .and => do
      let first ← required env context .and left
      if first.isTruthy then
        let second ← required env context .and right
        pure (.bool second.isTruthy)
      else pure (.bool false)
    | .or => do
      let first ← required env context .or left
      if first.isTruthy then pure (.bool true)
      else
        let second ← required env context .or right
        pure (.bool second.isTruthy)
    | .eq => strict .equal (required env context .eq left) (required env context .eq right)
    | .ne => strict .unequal (required env context .ne left) (required env context .ne right)
    | .lt =>
      strict (.comparison .lt) (required env context .lt left) (required env context .lt right)
    | .le =>
      strict (.comparison .le) (required env context .le left) (required env context .le right)
    | .gt =>
      strict (.comparison .gt) (required env context .gt left) (required env context .gt right)
    | .ge =>
      strict (.comparison .ge) (required env context .ge left) (required env context .ge right)
    | .add =>
      strict (.arithmetic .add) (required env context .add left) (required env context .add right)
    | .sub =>
      strict (.arithmetic .sub) (required env context .sub left) (required env context .sub right)
    | .mul =>
      strict (.arithmetic .mul) (required env context .mul left) (required env context .mul right)
    | .div =>
      strict (.arithmetic .div) (required env context .div left) (required env context .div right)
    | .rem =>
      strict (.arithmetic .rem) (required env context .rem left) (required env context .rem right)
    | .increment =>
      compound env.write .add (requiredPlace env context .increment left) (pure (.int 1)) site
    | .decrement =>
      compound env.write .sub (requiredPlace env context .decrement left) (pure (.int 1)) site
    | .addAssign =>
      compound env.write .add (requiredPlace env context .addAssign left)
        (required env context .addAssign right) site
    | .subAssign =>
      compound env.write .sub (requiredPlace env context .subAssign left)
        (required env context .subAssign right) site
    | .mulAssign =>
      compound env.write .mul (requiredPlace env context .mulAssign left)
        (required env context .mulAssign right) site
    | .divAssign =>
      compound env.write .div (requiredPlace env context .divAssign left)
        (required env context .divAssign right) site
    | .remAssign =>
      compound env.write .rem (requiredPlace env context .remAssign left)
        (required env context .remAssign right) site
    | .child => do
      let object ← required env context .child left
      let key ← Run.lift (Run.askSpace fun _ => keyName right)
      Run.lift (readProperty object key)
    | .index => do
      let place ← indexPlace (required env context .index left) (selector env context right)
      Run.lift (readPlace place)
    | .append => do
      let target ← required env context .append left
      let value ← required env context .append right
      Run.lift (appendTo target value)

def required (env : Environment σ τ) (context : ContextRef) (op : Operator) :
    Option Operand → Run σ τ Exit Value
  | some operand => Eval.operand env context operand
  | none => throw (.fault (.missingOperand op))

def requiredPlace (env : Environment σ τ) (context : ContextRef) (op : Operator) :
    Option Operand → Run σ τ Exit Place
  | some operand => Eval.place env context operand
  | none => throw (.fault (.missingOperand op))

def selector (env : Environment σ τ) (context : ContextRef) : Option Operand → Selector σ τ
  | none => .missing
  | some (.range _ lower upper) =>
    .range (rangeBound env context lower) (rangeBound env context upper)
  | some operand => .key (Eval.operand env context operand)

/-- A bound of a range. The place of the error that it is no int is left to the nodes around. -/
def rangeBound (env : Environment σ τ) (context : ContextRef) :
    Option Expression → Run σ τ Exit (Option Int64)
  | none => pure none
  | some bound => do
    let value ← Eval.expression env context bound
    let bound ← Run.lift (Run.orRaise (expectInt value))
    pure (some bound)

def place (env : Environment σ τ) (context : ContextRef) : Operand → Run σ τ Exit Place
  | .var site named => Run.located site (Run.lift (bindingPlace context named.name))
  | .nested site inner => Run.located site (expressionPlace env context inner)
  | other => Run.located other.site (throw (.raised (.ofKind .invalidAssignmentTarget)))

/-- An error in the object of a property access leaves the access without its place. -/
def expressionPlace (env : Environment σ τ) (context : ContextRef) :
    Expression → Run σ τ Exit Place
  | .node site op left right =>
    match op with
    | .plain => Run.located site <|
      match left with
      | some operand => Eval.place env context operand
      | none => throw (.raised (.ofKind .invalidAssignmentTarget))
    | .child => do
      let object ← required env context .child left
      let key ← Run.lift (Run.askSpace fun _ => keyName right)
      Run.located site (Run.lift (Run.orRaise (propertyPlace object key)))
    | .index => Run.located site <|
      indexPlace (required env context .index left) (selector env context right)
    | _ => Run.located site (throw (.raised (.ofKind .invalidAssignmentTarget)))

def operand (env : Environment σ τ) (context : ContextRef) : Operand → Run σ τ Exit Value
  | .literal _ value => pure value.value
  | .var site named => Run.located site (Run.lift (variableValue context named))
  | .array site elements => Run.located site do
    let items ← Eval.expressions env context elements
    onSpace (Space.allocateArray items.toArray)
  | .object site properties => Run.located site do
    let inner ← onSpace (Space.fork context site)
    let object ← onSpace
      (Space.allocateObject { properties := ∅, context := some inner, site := site })
    onSpace (Space.define inner "this" object .immutable)
    Eval.properties env inner object properties
    pure object
  | .nested site inner => Run.located site (Eval.expression env context inner)
  | .function site parameters body => Run.located site
    (Run.lift (Run.ofSpace (Space.allocateFunction ⟨context, parameters, body, none⟩)))
  | .call site callee arguments => Run.located site do
    let callee' ← Eval.expression env context callee
    let arguments ← Eval.expressions env context arguments
    Run.lift (env.call callee' arguments (if site.isEmpty then callee.site else site))
  | .jump _ direction => throw (.jumped direction)
  | .range _ _ _ => throw (.fault .strayRange)

def expressions (env : Environment σ τ) (context : ContextRef) :
    List Expression → Run σ τ Exit (List Value)
  | [] => pure []
  | first :: rest => do
    let value ← Eval.expression env context first
    let values ← Eval.expressions env context rest
    pure (value :: values)

/-- Gives a new object its properties in the order in which they are written. -/
def properties (env : Environment σ τ) (context : ContextRef) (object : Value) :
    List (String × Expression) → Run σ τ Exit Unit
  | [] => pure ()
  | (key, first) :: rest => do
    let value ← Eval.expression env context first
    onSpace (Space.nameFunction value key)
    let _ ← onSpace (Space.assignProperty object key value)
    Eval.properties env context object rest

def scope (env : Environment σ τ) (context : ContextRef) : Scope → Run σ τ Exit Unit
  | .mk site controls => do
    let inner ← onSpace (Space.fork context site)
    Eval.controls env inner controls

/-- Runs controls one after the other, directly in the context. -/
def controls (env : Environment σ τ) (context : ContextRef) : List Control → Run σ τ Exit Unit
  | [] => pure ()
  | .statement site body :: rest => do
    let _ ← Run.located site (Eval.expression env context body)
    Eval.controls env context rest
  | .conditional inner :: rest => do
    Eval.conditional env context inner
    Eval.controls env context rest

/-- An error in the condition of an `if` leaves it without its place. -/
def conditional (env : Environment σ τ) (context : ContextRef) :
    Conditional → Run σ τ Exit Unit
  | .ifThen site condition body alternative => do
    let value ← Eval.expression env context condition
    Run.located site <|
      if value.isTruthy then Eval.scope env context body
      else Eval.otherwise env context alternative
  | .otherwise site body => Run.located site (Eval.scope env context body)
  | .whileLoop site condition body => Run.located site <|
    repeatWhile (Value.isTruthy <$> Eval.expression env context condition)
      (Eval.scope env context body) env.bound
  | .forIn site item iterable (.mk bodySite body) => Run.located site do
    let value ← Eval.expression env context iterable
    let items ← Run.lift (loopItems value)
    let mutability := if item.hint = .constant then Mutability.immutable else .mutable
    forEach (fun value => do
      let inner ← onSpace (Space.fork context bodySite)
      onSpace (Space.define inner item.name value mutability)
      Eval.controls env inner body) items
  | .attempt site body handlers => Run.located site <|
    env.rescue (Eval.scope env context body) fun error =>
      Eval.handlers env context error handlers

def otherwise (env : Environment σ τ) (context : ContextRef) :
    Option Conditional → Run σ τ Exit Unit
  | none => pure ()
  | some alternative => Eval.conditional env context alternative

/-- Runs the first handler that takes the error, or lets the error pass. -/
def handlers (env : Environment σ τ) (context : ContextRef) (error : ScriptError) :
    List Handler → Run σ τ Exit Unit
  | [] => throw (.raised error)
  | .mk site code parameter (.mk _ body) :: rest =>
    if handles code error then do
      let inner ← onSpace (Space.fork context site)
      match parameter with
      | some name =>
        let object ← onSpace (errorObject error)
        onSpace (Space.define inner name object .mutable)
        Eval.controls env inner body
      | none => Eval.controls env inner body
    else Eval.handlers env context error rest

end

end Eval

end ScriptEngine
