import ScriptEngine.Binary64.Remainder
import ScriptEngine.Run

set_option autoImplicit false

namespace ScriptEngine

/-- The operators that take the values of both operands. -/
inductive BinaryOperator where
  | equal
  | unequal
  | comparison (comparison : Comparison)
  | arithmetic (arithmetic : Arithmetic)
deriving DecidableEq, Repr

/-- A length as an int, the greatest int if it does not fit. -/
def intOfLength (length : Nat) : Int64 :=
  if length ≤ Int64.maxValue.toInt then Int64.ofNat length else Int64.maxValue

/-- The order of two floats. A float that is not a number has none. -/
def floatOrder? (a b : Float) : Option Ordering :=
  if a < b then some .lt
  else if a == b then some .eq
  else if b < a then some .gt
  else none

namespace Eval

def compareValues (comparison : Comparison) (left right : Value) : Except ScriptError Bool :=
  match left, right with
  | .int a, .int b => .ok (comparison.accepts (compare a b))
  | .string a, .string b => .ok (comparison.accepts (compare a b))
  | left, right =>
    match left.float?, right.float? with
    | some a, some b => .ok ((floatOrder? a b).any comparison.accepts)
    | _, _ =>
      .error (.ofKind (.invalidOperands comparison.operator left.typeName right.typeName))

def checked (operation : String) (exact : Int) : Except ScriptError Int64 :=
  if Int64.minValue.toInt ≤ exact ∧ exact ≤ Int64.maxValue.toInt then .ok (Int64.ofInt exact)
  else .error (.ofKind (.integerOverflow operation))

/-- Division cuts toward zero and the remainder has the sign of the dividend. A remainder is
refused with the quotient that it belongs to. -/
def intArithmetic (op : Arithmetic) (a b : Int64) : Except ScriptError Int64 :=
  match op with
  | .add => checked "addition" (a.toInt + b.toInt)
  | .sub => checked "subtraction" (a.toInt - b.toInt)
  | .mul => checked "multiplication" (a.toInt * b.toInt)
  | .div =>
    if b = 0 then .error (.ofKind .divisionByZero)
    else checked "division" (a.toInt.tdiv b.toInt)
  | .rem =>
    if b = 0 then .error (.ofKind .divisionByZero)
    else
      match checked "remainder" (a.toInt.tdiv b.toInt) with
      | .ok _ => .ok (Int64.ofInt (a.toInt.tmod b.toInt))
      | .error error => .error error

def floatArithmetic (op : Arithmetic) (a b : Float) : Float :=
  match op with
  | .add => a + b
  | .sub => a - b
  | .mul => a * b
  | .div => a / b
  | .rem => floatRemainder a b

def arithmetic (op : Arithmetic) (left right : Value) : Except ScriptError Value :=
  match left, right with
  | .int a, .int b => (intArithmetic op a b).map .int
  | left, right =>
    match left.float?, right.float? with
    | some a, some b => .ok (.float (floatArithmetic op a b))
    | _, _ => .error (.ofKind (.invalidOperands op.operator left.typeName right.typeName))

variable {σ τ : Type}

def join (left right : Value) : Run σ τ Halt Value :=
  Run.askSpace fun space => return .string ((← space.display left) ++ (← space.display right))

/-- A string on either side makes addition join texts. Two arrays give a new one. -/
def add (left right : Value) : Run σ τ Halt Value :=
  match left, right with
  | .string _, _ | _, .string _ => join left right
  | .array a, .array b => do
    let first ← Run.askSpace (·.array a)
    let second ← Run.askSpace (·.array b)
    Run.ofSpace (Space.allocateArray (first ++ second))
  | left, right => Run.orRaise (arithmetic .add left right)

def binary (op : BinaryOperator) (left right : Value) : Run σ τ Halt Value :=
  match op with
  | .equal => Run.askSpace fun space => return .bool (← space.equal left right)
  | .unequal => Run.askSpace fun space => return .bool (!(← space.equal left right))
  | .comparison comparison => Run.orRaise ((compareValues comparison left right).map .bool)
  | .arithmetic .add => add left right
  | .arithmetic op => Run.orRaise (arithmetic op left right)

end Eval

end ScriptEngine
