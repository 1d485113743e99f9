import ScriptEngine.Binary64.Shortest
import ScriptEngine.Tree

set_option autoImplicit false

namespace ScriptEngine

/-- A slot together with the generation of the object it was issued for. The generation changes
whenever the slot is reclaimed, so a handle kept for too long is recognised. -/
structure Handle where
  index : Nat
  generation : UInt32
deriving DecidableEq, Repr, Inhabited

namespace Handle

instance : Ord Handle :=
  ⟨fun a b => (compare a.index b.index).then (compare a.generation b.generation)⟩

theorem compare_def (a b : Handle) :
    compare a b = (compare a.index b.index).then (compare a.generation b.generation) := rfl

instance : Std.LawfulEqOrd Handle where
  compare_self := by simp [compare_def, Ordering.then]
  eq_of_compare := by
    intro a b same
    simp only [compare_def, Ordering.then_eq_eq, Std.LawfulEqCmp.compare_eq_iff_eq] at same
    obtain ⟨index, generation⟩ := a
    obtain ⟨index', generation'⟩ := b
    simp_all

instance : Std.TransOrd Handle :=
  inferInstanceAs (Std.TransCmp fun (a b : Handle) =>
    compareLex (compareOn Handle.index) (compareOn Handle.generation) a b)

end Handle

structure ContextRef where
  handle : Handle
deriving DecidableEq, Repr, Inhabited

/-- Scalars are stored in the value itself. Arrays, objects and callables are handles to slots of a
space, so two values can share one container. -/
inductive Value where
  | undefined
  | null
  | bool (value : Bool)
  | int (value : Int64)
  | float (value : Float)
  | string (value : String)
  | array (handle : Handle)
  | object (handle : Handle)
  | callable (handle : Handle)
deriving Inhabited

inductive ValueType where
  | undefined
  | null
  | bool
  | int
  | float
  | string
  | array
  | object
  | callable
deriving DecidableEq, Repr

def ValueType.name : ValueType → String
  | .undefined => "Undefined"
  | .null => "Null"
  | .bool => "Bool"
  | .int => "Int"
  | .float => "Float"
  | .string => "String"
  | .array => "Array"
  | .object => "Object"
  | .callable => "Callable"

namespace Value

def type : Value → ValueType
  | .undefined => .undefined
  | .null => .null
  | .bool _ => .bool
  | .int _ => .int
  | .float _ => .float
  | .string _ => .string
  | .array _ => .array
  | .object _ => .object
  | .callable _ => .callable

def typeName (value : Value) : String := value.type.name

/-- Whether a condition accepts the value. Every container is accepted, and so is a float that is
not a number. -/
def isTruthy : Value → Bool
  | .undefined | .null => false
  | .bool value => value
  | .int value => value != 0
  | .float value => value != 0.0
  | .string value => !value.isEmpty
  | .array _ | .object _ | .callable _ => true

def isUndefined : Value → Bool
  | .undefined => true
  | _ => false

def handle? : Value → Option Handle
  | .array handle | .object handle | .callable handle => some handle
  | _ => none

def int? : Value → Option Int64
  | .int value => some value
  | _ => none

def string? : Value → Option String
  | .string value => some value
  | _ => none

def bool? : Value → Option Bool
  | .bool value => some value
  | _ => none

/-- Identity: the same tag and the same scalar or handle. Floats are compared as numbers. -/
def identical : Value → Value → Bool
  | .undefined, .undefined => true
  | .null, .null => true
  | .bool a, .bool b => a == b
  | .int a, .int b => a == b
  | .float a, .float b => a == b
  | .string a, .string b => a == b
  | .array a, .array b => a == b
  | .object a, .object b => a == b
  | .callable a, .callable b => a == b
  | _, _ => false

def float? : Value → Option Float
  | .int value => some value.toFloat
  | .float value => some value
  | _ => none

/-- The text of a value on its own. Containers show only the index of their slot. -/
def text : Value → String
  | .undefined => "undefined"
  | .null => "null"
  | .bool value => if value then "true" else "false"
  | .int value => toString value.toInt
  | .float value => floatText value
  | .string value => value
  | .array handle => "<array #" ++ toString handle.index ++ ">"
  | .object handle => "<object #" ++ toString handle.index ++ ">"
  | .callable handle => "<callable #" ++ toString handle.index ++ ">"

end Value

def Literal.value : Literal → Value
  | .undefined => .undefined
  | .null => .null
  | .bool value => .bool value
  | .int value => .int value
  | .float value => .float value
  | .string value => .string value

end ScriptEngine
