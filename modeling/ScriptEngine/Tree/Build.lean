import ScriptEngine.Tree

set_option autoImplicit false

namespace ScriptEngine

namespace Expression

def ofOperand (operand : Operand) : Expression := .node .empty .plain (some operand) none

/-- The expression as an operand of another one. A plain expression gives its operand back, any
other keeps its own source info on both levels. -/
def toOperand : Expression → Operand
  | .node _ .plain (some operand) none => operand
  | expression => .nested expression.site expression

def ofLiteral (value : Literal) : Expression := ofOperand (.literal .empty value)

def undefined : Expression := ofLiteral .undefined

def null : Expression := ofLiteral .null

def bool (value : Bool) : Expression := ofLiteral (.bool value)

def int (value : Int64) : Expression := ofLiteral (.int value)

def float (value : Float) : Expression := ofLiteral (.float value)

def string (value : String) : Expression := ofLiteral (.string value)

private def variableOperand (name : String) (hint : Hint) : Operand :=
  .var .empty ⟨.empty, name, hint⟩

def var (name : String) : Expression := ofOperand (variableOperand name .none)

/-- Declares `name` with an initial value, as a constant if the hint says so. -/
def declare (name : String) (hint : Hint) (value : Expression) : Expression :=
  .node .empty .assign (some (variableOperand name hint)) (some value.toOperand)

def binary (op : Operator) (left right : Expression) : Expression :=
  .node .empty op (some left.toOperand) (some right.toOperand)

def assign (target value : Expression) : Expression := binary .assign target value

def afterOperand (op : Operator) (left : Expression) : Expression :=
  .node .empty op (some left.toOperand) none

def beforeOperand (op : Operator) (right : Expression) : Expression :=
  .node .empty op none (some right.toOperand)

def ret (value : Option Expression) : Expression :=
  .node .empty .ret none (value.map toOperand)

def jump (direction : Jump) : Expression := ofOperand (.jump .empty direction)

def child (object : Expression) (key : String) : Expression :=
  .node .empty .child (some object.toOperand) (some (variableOperand key .none))

def index (target selector : Expression) : Expression := binary .index target selector

def range (target : Expression) (lower upper : Option Expression) : Expression :=
  .node .empty .index (some target.toOperand) (some (.range .empty lower upper))

def append (target value : Expression) : Expression := binary .append target value

def array (elements : List Expression) : Expression := ofOperand (.array .empty elements)

def object (properties : List (String × Expression)) : Expression :=
  ofOperand (.object .empty properties)

def call (callee : Expression) (arguments : List Expression) : Expression :=
  ofOperand (.call .empty callee arguments)

end Expression

namespace Scope

def ofControls (controls : List Control) : Scope := .mk .empty controls

end Scope

namespace Program

def ofControls (controls : List Control) : Program := .mk .empty (.ofControls controls)

end Program

namespace Expression

def function (parameters : List String) (body : Program) : Expression :=
  ofOperand (.function .empty parameters body)

end Expression

namespace Control

def ofExpression (body : Expression) : Control := .statement body.site body

/-- A statement at the start of a line. Its expression gets the same source info, and so does
the operand of a plain expression. -/
def statementAt (file : String) (line : Nat) (body : Expression) : Control :=
  let site := SourceInfo.point file line 1
  match body with
  | .node _ .plain left right =>
    ofExpression (.node site .plain (left.map (·.locate site)) right)
  | body => ofExpression (body.locate site)

end Control

theorem Expression.toOperand_ofOperand (operand : Operand) :
    (Expression.ofOperand operand).toOperand = operand := rfl

end ScriptEngine
