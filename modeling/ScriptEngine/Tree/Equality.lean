import ScriptEngine.Tree

set_option autoImplicit false

namespace ScriptEngine

namespace Literal

def same : Literal → Literal → Bool
  | .undefined, .undefined => true
  | .null, .null => true
  | .bool a, .bool b => a == b
  | .int a, .int b => a == b
  | .float a, .float b => a == b
  | .string a, .string b => a == b
  | _, _ => false

end Literal

mutual

def Expression.same : Expression → Expression → Bool
  | .node site op left right, .node site' op' left' right' =>
    site == site' && op == op' && sameOperand left left' && sameOperand right right'

def sameOperand : Option Operand → Option Operand → Bool
  | none, none => true
  | some a, some b => a.same b
  | _, _ => false

def Operand.same : Operand → Operand → Bool
  | .literal site value, .literal site' value' => site == site' && value.same value'
  | .var site named, .var site' named' => site == site' && named == named'
  | .array site elements, .array site' elements' =>
    site == site' && sameExpressions elements elements'
  | .object site properties, .object site' properties' =>
    site == site' && sameProperties properties properties'
  | .nested site expression, .nested site' expression' =>
    site == site' && expression.same expression'
  | .function site parameters body, .function site' parameters' body' =>
    site == site' && parameters == parameters' && body.same body'
  | .call site callee arguments, .call site' callee' arguments' =>
    site == site' && callee.same callee' && sameExpressions arguments arguments'
  | .jump site direction, .jump site' direction' => site == site' && direction == direction'
  | .range site lower upper, .range site' lower' upper' =>
    site == site' && sameExpression lower lower' && sameExpression upper upper'
  | _, _ => false

def sameExpression : Option Expression → Option Expression → Bool
  | none, none => true
  | some a, some b => a.same b
  | _, _ => false

def sameExpressions : List Expression → List Expression → Bool
  | [], [] => true
  | a :: rest, b :: rest' => a.same b && sameExpressions rest rest'
  | _, _ => false

def sameProperties : List (String × Expression) → List (String × Expression) → Bool
  | [], [] => true
  | (key, a) :: rest, (key', b) :: rest' => key == key' && a.same b && sameProperties rest rest'
  | _, _ => false

def Program.same : Program → Program → Bool
  | .mk site body, .mk site' body' => site == site' && body.same body'

def Scope.same : Scope → Scope → Bool
  | .mk site controls, .mk site' controls' => site == site' && sameControls controls controls'

def sameControls : List Control → List Control → Bool
  | [], [] => true
  | a :: rest, b :: rest' => a.same b && sameControls rest rest'
  | _, _ => false

def Control.same : Control → Control → Bool
  | .statement site body, .statement site' body' => site == site' && body.same body'
  | .conditional inner, .conditional inner' => inner.same inner'
  | _, _ => false

def Conditional.same : Conditional → Conditional → Bool
  | .ifThen site condition body otherwise, .ifThen site' condition' body' otherwise' =>
    site == site' && condition.same condition' && body.same body' &&
      sameOtherwise otherwise otherwise'
  | .otherwise site body, .otherwise site' body' => site == site' && body.same body'
  | .whileLoop site condition body, .whileLoop site' condition' body' =>
    site == site' && condition.same condition' && body.same body'
  | .forIn site item iterable body, .forIn site' item' iterable' body' =>
    site == site' && item == item' && iterable.same iterable' && body.same body'
  | .attempt site body handlers, .attempt site' body' handlers' =>
    site == site' && body.same body' && sameHandlers handlers handlers'
  | _, _ => false

def sameOtherwise : Option Conditional → Option Conditional → Bool
  | none, none => true
  | some a, some b => a.same b
  | _, _ => false

def sameHandlers : List Handler → List Handler → Bool
  | [], [] => true
  | a :: rest, b :: rest' => a.same b && sameHandlers rest rest'
  | _, _ => false

def Handler.same : Handler → Handler → Bool
  | .mk site code parameter body, .mk site' code' parameter' body' =>
    site == site' && code == code' && parameter == parameter' && body.same body'

end

instance : BEq Expression := ⟨Expression.same⟩
instance : BEq Program := ⟨Program.same⟩

end ScriptEngine
