import ScriptEngine.Tree

set_option autoImplicit false

namespace ScriptEngine

namespace Operator

def needsLeft : Operator → Bool
  | .plain | .ret | .raise | .not => false
  | _ => true

def needsRight : Operator → Bool
  | .plain | .ret | .increment | .decrement => false
  | _ => true

/-- Whether the operator has the operands that it cannot do without. -/
def supplied (op : Operator) (left right : Option Operand) : Bool :=
  (left.isSome || !op.needsLeft) && (right.isSome || !op.needsRight)

end Operator

/-- Whether an operand can stand for the key of a property. -/
def Operand.isName : Operand → Bool
  | .var _ _ | .literal _ (.string _) => true
  | _ => false

namespace WellFormed

mutual

def expression : Expression → Bool
  | .node _ op left right =>
    op.supplied left right && (op != .child || right.all Operand.isName) && optional left &&
      if op = .index then selector right else optional right

def optional : Option Operand → Bool
  | none => true
  | some inner => operand inner

/-- The right side of an index expression. -/
def selector : Option Operand → Bool
  | none => true
  | some (.range _ lower upper) => rangeBound lower && rangeBound upper
  | some inner => operand inner

def rangeBound : Option Expression → Bool
  | none => true
  | some inner => expression inner

def operand : Operand → Bool
  | .literal _ _ | .var _ _ | .jump _ _ => true
  | .array _ elements => expressions elements
  | .object _ members => properties members
  | .nested _ inner => expression inner
  | .function _ _ body => program body
  | .call _ callee arguments => expression callee && expressions arguments
  | .range _ _ _ => false

def expressions : List Expression → Bool
  | [] => true
  | first :: rest => expression first && expressions rest

def properties : List (String × Expression) → Bool
  | [] => true
  | (_, first) :: rest => expression first && properties rest

def program : Program → Bool
  | .mk _ body => scope body

def scope : Scope → Bool
  | .mk _ inner => controls inner

def controls : List Control → Bool
  | [] => true
  | .statement _ body :: rest => expression body && controls rest
  | .conditional inner :: rest => conditional inner && controls rest

def conditional : Conditional → Bool
  | .ifThen _ condition body alternative =>
    expression condition && scope body && otherwise alternative
  | .otherwise _ body => scope body
  | .whileLoop _ condition body => expression condition && scope body
  | .forIn _ _ iterable body => expression iterable && scope body
  | .attempt _ body rescue => scope body && handlers rescue

def otherwise : Option Conditional → Bool
  | none => true
  | some alternative => conditional alternative

def handlers : List Handler → Bool
  | [] => true
  | .mk _ _ _ body :: rest => scope body && handlers rest

end

end WellFormed

/-- Whether a program can be run without breaking the contract on trees. -/
def Program.wellFormed (program : Program) : Bool := WellFormed.program program

end ScriptEngine
