import ScriptEngine.Space.Callable
import ScriptEngine.Space.Display

set_option autoImplicit false

namespace ScriptEngine

/-- A value with its contents at one moment, as a tree that no longer needs the space. A container
inside itself and a handle that is no longer live are marked as such. -/
inductive Snapshot where
  | scalar (value : Literal)
  | array (items : List Snapshot)
  | object (className : Option String) (properties : List (String × Snapshot))
  | callable (text : String) (arity : Option Nat)
  | cycle
  | stale

namespace Space

/-- The containers around the value stand in `path`. -/
def snapshotWithin (space : Space) : Nat → List Handle → Value → Except Fault Snapshot
  | 0, _, _ => .error .endlessStructure
  | bound + 1, path, value =>
    match value with
    | .undefined => return .scalar .undefined
    | .null => return .scalar .null
    | .bool value => return .scalar (.bool value)
    | .int value => return .scalar (.int value)
    | .float value => return .scalar (.float value)
    | .string value => return .scalar (.string value)
    | .array handle =>
      if handle ∈ path then return .cycle
      else if space.contains handle then do
        let items ← space.array handle
        return .array (← items.toList.mapM (space.snapshotWithin bound (handle :: path)))
      else return .stale
    | .object handle =>
      if handle ∈ path then return .cycle
      else if space.contains handle then do
        let data ← space.objectData handle
        let properties ← data.properties.entries.mapM fun (key, value) =>
          return (key, ← space.snapshotWithin bound (handle :: path) value)
        return .object data.className properties
      else return .stale
    | .callable handle =>
      if space.contains handle then
        return .callable (← space.callableText handle) (← space.arity? value)
      else return .stale

/-- A value with its contents. No value nests deeper than there are slots. -/
def snapshot (space : Space) (value : Value) : Except Fault Snapshot :=
  space.snapshotWithin (space.slots.size + 1) [] value

end Space

end ScriptEngine
