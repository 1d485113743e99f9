import ScriptEngine.Value

set_option autoImplicit false

namespace ScriptEngine

inductive ObjectKind where
  | array
  | object
  | function
  | native
  | context
deriving DecidableEq, Repr

def ObjectKind.name : ObjectKind → String
  | .array => "array"
  | .object => "object"
  | .function => "function"
  | .native => "native function"
  | .context => "context"

/-- Broken contracts between the engine, its host and the trees it is given. No script can catch a
fault: it ends everything at once. -/
inductive Fault where
  | spaceExhausted
  | staleHandle (handle : Handle)
  | wrongKind (handle : Handle) (found expected : ObjectKind)
  | notACallable (found : ObjectKind)
  | notAnObject (found : ValueType)
  | alreadyWrapped (handle : Handle) (host : Nat)
  | brokenChain
  | missingCapture (index : Nat)
  | missingOperand (op : Operator)
  | namelessKey
  | strayRange
  | endlessStructure
deriving DecidableEq, Repr

namespace Fault

def message : Fault → String
  | .spaceExhausted => "GC space exhausted"
  | .staleHandle handle =>
    "stale GC handle #" ++ toString handle.index ++ " (generation " ++
      toString handle.generation.toNat ++ ")"
  | .wrongKind handle found expected =>
    "GC handle #" ++ toString handle.index ++ " refers to a " ++ found.name ++ ", expected " ++
      expected.name
  | .notACallable found => "callable handle points at " ++ found.name
  | .notAnObject found => "object operation on " ++ found.name
  | .alreadyWrapped handle host =>
    "object #" ++ toString handle.index ++ " is already wrapped by host HostId(" ++
      toString host ++ ")"
  | .brokenChain => "context chain does not end in a global context"
  | .missingCapture index => "native function has no capture " ++ toString index
  | .missingOperand op => "operator `" ++ op.symbol ++ "` is missing an operand"
  | .namelessKey => "property access with a non-name key"
  | .strayRange => "range selector outside of an index expression"
  | .endlessStructure => "a structure is deeper than the space is large"

end Fault

end ScriptEngine
