set_option autoImplicit false

namespace ScriptEngine

/-- The operators of the language. `plain` stands for no operator at all: an expression that is only
its left operand. -/
inductive Operator where
  | plain
  | assign
  | ret
  | raise
  | not
  | eq
  | ne
  | lt
  | le
  | gt
  | ge
  | and
  | or
  | add
  | sub
  | mul
  | div
  | rem
  | increment
  | decrement
  | addAssign
  | subAssign
  | mulAssign
  | divAssign
  | remAssign
  | child
  | index
  | append
deriving DecidableEq, Repr, Inhabited

inductive Arithmetic where
  | add
  | sub
  | mul
  | div
  | rem
deriving DecidableEq, Repr

inductive Comparison where
  | lt
  | le
  | gt
  | ge
deriving DecidableEq, Repr

namespace Operator

/-- The operator as a script writes it, used in messages. -/
def symbol : Operator → String
  | plain => ""
  | assign => "="
  | ret => "return"
  | raise => "throw"
  | not => "!"
  | eq => "=="
  | ne => "!="
  | lt => "<"
  | le => "<="
  | gt => ">"
  | ge => ">="
  | and => "&&"
  | or => "||"
  | add => "+"
  | sub => "-"
  | mul => "*"
  | div => "/"
  | rem => "%"
  | increment => "++"
  | decrement => "--"
  | addAssign => "+="
  | subAssign => "-="
  | mulAssign => "*="
  | divAssign => "/="
  | remAssign => "%="
  | child => "."
  | index => "[]"
  | append => "[]="

def all : List Operator :=
  [plain, assign, ret, raise, not, eq, ne, lt, le, gt, ge, and, or, add, sub, mul, div, rem,
    increment, decrement, addAssign, subAssign, mulAssign, divAssign, remAssign, child, index,
    append]

/-- The operator that a symbol stands for. -/
def ofSymbol? (text : String) : Option Operator := all.find? (·.symbol == text)

theorem ofSymbol?_symbol (op : Operator) : ofSymbol? op.symbol = some op := by
  cases op <;> decide

/-- The arithmetic that a compound assignment applies before it stores. -/
def compound? : Operator → Option Arithmetic
  | addAssign => some .add
  | subAssign => some .sub
  | mulAssign => some .mul
  | divAssign => some .div
  | remAssign => some .rem
  | _ => none

end Operator

namespace Arithmetic

def operator : Arithmetic → Operator
  | add => .add
  | sub => .sub
  | mul => .mul
  | div => .div
  | rem => .rem

end Arithmetic

namespace Comparison

def operator : Comparison → Operator
  | lt => .lt
  | le => .le
  | gt => .gt
  | ge => .ge

/-- Whether the comparison accepts this order of its operands. -/
def accepts : Comparison → Ordering → Bool
  | lt, order => order == .lt
  | le, order => order != .gt
  | gt, order => order == .gt
  | ge, order => order != .lt

end Comparison

end ScriptEngine
