import ScriptEngine.Source
import ScriptEngine.Operator

set_option autoImplicit false

namespace ScriptEngine

inductive Literal where
  | undefined
  | null
  | bool (value : Bool)
  | int (value : Int64)
  | float (value : Float)
  | string (value : String)
deriving Inhabited

/-- How a variable is introduced where it stands: not at all, mutably or as a constant. -/
inductive Hint where
  | none
  | mutable
  | constant
deriving DecidableEq, Repr, Inhabited

structure Variable where
  site : SourceInfo
  name : String
  hint : Hint
deriving DecidableEq, Repr, Inhabited

inductive Jump where
  | leave
  | next
deriving DecidableEq, Repr, Inhabited

mutual

/-- An operator between two operands, either of which may be missing. -/
inductive Expression where
  | node (site : SourceInfo) (op : Operator) (left right : Option Operand)

/-- A range selector has a meaning only as the right operand of an index expression. -/
inductive Operand where
  | literal (site : SourceInfo) (value : Literal)
  | var (site : SourceInfo) (named : Variable)
  | array (site : SourceInfo) (elements : List Expression)
  | object (site : SourceInfo) (properties : List (String × Expression))
  | nested (site : SourceInfo) (expression : Expression)
  | function (site : SourceInfo) (parameters : List String) (body : Program)
  | call (site : SourceInfo) (callee : Expression) (arguments : List Expression)
  | jump (site : SourceInfo) (direction : Jump)
  | range (site : SourceInfo) (lower upper : Option Expression)

inductive Program where
  | mk (site : SourceInfo) (body : Scope)

inductive Scope where
  | mk (site : SourceInfo) (controls : List Control)

inductive Control where
  | statement (site : SourceInfo) (body : Expression)
  | conditional (inner : Conditional)

inductive Conditional where
  | ifThen (site : SourceInfo) (condition : Expression) (body : Scope)
      (otherwise : Option Conditional)
  | otherwise (site : SourceInfo) (body : Scope)
  | whileLoop (site : SourceInfo) (condition : Expression) (body : Scope)
  | forIn (site : SourceInfo) (item : Variable) (iterable : Expression) (body : Scope)
  | attempt (site : SourceInfo) (body : Scope) (handlers : List Handler)

/-- A handler without a code catches every error. -/
inductive Handler where
  | mk (site : SourceInfo) (code parameter : Option String) (body : Scope)

end

instance : Inhabited Expression := ⟨.node .empty .plain none none⟩
instance : Inhabited Operand := ⟨.literal .empty .undefined⟩
instance : Inhabited Scope := ⟨.mk .empty []⟩
instance : Inhabited Program := ⟨.mk .empty default⟩
instance : Inhabited Control := ⟨.statement .empty default⟩
instance : Inhabited Conditional := ⟨.otherwise .empty default⟩
instance : Inhabited Handler := ⟨.mk .empty none none default⟩

namespace Expression

def site : Expression → SourceInfo
  | .node site _ _ _ => site

def op : Expression → Operator
  | .node _ op _ _ => op

def left : Expression → Option Operand
  | .node _ _ left _ => left

def right : Expression → Option Operand
  | .node _ _ _ right => right

def locate (site : SourceInfo) : Expression → Expression
  | .node _ op left right => .node site op left right

end Expression

namespace Operand

def site : Operand → SourceInfo
  | .literal site _ | .var site _ | .array site _ | .object site _ | .nested site _
  | .function site _ _ | .call site _ _ | .jump site _ | .range site _ _ => site

def locate (site : SourceInfo) : Operand → Operand
  | .literal _ value => .literal site value
  | .var _ named => .var site named
  | .array _ elements => .array site elements
  | .object _ properties => .object site properties
  | .nested _ expression => .nested site expression
  | .function _ parameters body => .function site parameters body
  | .call _ callee arguments => .call site callee arguments
  | .jump _ direction => .jump site direction
  | .range _ lower upper => .range site lower upper

end Operand

namespace Scope

def site : Scope → SourceInfo
  | .mk site _ => site

def controls : Scope → List Control
  | .mk _ controls => controls

end Scope

namespace Program

def site : Program → SourceInfo
  | .mk site _ => site

def body : Program → Scope
  | .mk _ body => body

end Program

namespace Conditional

def site : Conditional → SourceInfo
  | .ifThen site _ _ _ | .otherwise site _ | .whileLoop site _ _ | .forIn site _ _ _
  | .attempt site _ _ => site

end Conditional

namespace Control

def site : Control → SourceInfo
  | .statement site _ => site
  | .conditional inner => inner.site

end Control

end ScriptEngine
