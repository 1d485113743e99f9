import ScriptEngine.Table
import ScriptEngine.Fault

set_option autoImplicit false

namespace ScriptEngine

inductive Mutability where
  | mutable
  | immutable
deriving DecidableEq, Repr

def Mutability.isMutable : Mutability → Bool
  | .mutable => true
  | .immutable => false

structure Binding where
  value : Value
  mutability : Mutability

/-- The identity of a script: its path, taken apart at the last separator. -/
structure ScriptInfo where
  path : String
  file : String
  directory : String
deriving DecidableEq, Repr

/-- A path without a separator is a file in no directory. -/
def ScriptInfo.ofPath (path : String) (separator : Char) : ScriptInfo :=
  let backward := path.toList.reverse
  let file := (backward.takeWhile (· != separator)).reverse
  let directory := ((backward.dropWhile (· != separator)).drop 1).reverse
  ⟨path, String.ofList file, String.ofList directory⟩

/-- A global context carries its script, any other one its parent and the place that opened it. -/
inductive ContextKind where
  | global (script : ScriptInfo) (lines : List String)
  | child (parent : ContextRef) (site : SourceInfo)

structure Context where
  kind : ContextKind
  bindings : Table String Binding

def Context.parent? (context : Context) : Option ContextRef :=
  match context.kind with
  | .global _ _ => none
  | .child parent _ => some parent

/-- The properties of an object, its class, the context that its literal opened, the place that
created it and the listeners of its events. -/
structure ObjectData where
  properties : Table String Value
  className : Option String := none
  context : Option ContextRef := none
  site : SourceInfo := .empty
  listeners : Table String (List Value) := ∅

/-- A function of a script with the context it was written in. It gets the name of the first
binding or property that it is stored in. -/
structure Closure where
  context : ContextRef
  parameters : List String
  body : Program
  name : Option String

def Closure.displayName (closure : Closure) : String := closure.name.getD "<anonymous>"

/-- The three methods of objects with events, or the function of the host with this number. -/
inductive NativeBody where
  | subscribe
  | unsubscribe
  | dispatch
  | host (number : Nat)
deriving DecidableEq, Repr

/-- A native function checks its arity, if it has one, before its body runs. -/
structure NativeFunction where
  name : String
  arity : Option Nat
  captures : List Value
  body : NativeBody

/-- What a slot of a space holds. The handles that a payload names are all the ways from one slot to
another but for the captures of a wrapped object. -/
inductive Payload where
  | array (items : Array Value)
  | object (data : ObjectData)
  | function (closure : Closure)
  | native (callee : NativeFunction)
  | context (data : Context)

def valueHandles (values : List Value) : List Handle := values.filterMap Value.handle?

namespace ObjectData

def references (data : ObjectData) : List Handle :=
  valueHandles data.properties.values ++ data.context.toList.map (·.handle) ++
    valueHandles data.listeners.values.flatten

end ObjectData

namespace Context

def references (context : Context) : List Handle :=
  context.parent?.toList.map (·.handle) ++
    valueHandles (context.bindings.values.map (·.value))

end Context

namespace Payload

def kind : Payload → ObjectKind
  | .array _ => .array
  | .object _ => .object
  | .function _ => .function
  | .native _ => .native
  | .context _ => .context

def references : Payload → List Handle
  | .array items => valueHandles items.toList
  | .object data => data.references
  | .function closure => [closure.context.handle]
  | .native callee => valueHandles callee.captures
  | .context data => data.references

end Payload

/-- The tie between an object and its host: the number of the host, the number of the hook that
is offered every write, and the values that the hook may use. -/
structure Wrapping where
  host : Nat
  setter : Option Nat
  captures : List Value

end ScriptEngine
