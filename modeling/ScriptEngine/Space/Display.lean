import ScriptEngine.Space
import ScriptEngine.Text.Quoted

set_option autoImplicit false

namespace ScriptEngine

/-- A text that is being written, and the containers around the value that comes next. -/
structure Writing where
  out : String
  visiting : List Handle

/-- Writing fails only where the space is at fault. -/
abbrev WritingM (α : Type) := Act Writing Fault α

namespace Writing

def put (text : String) : WritingM Unit :=
  modify fun writing => { writing with out := writing.out ++ text }

def visits (handle : Handle) : WritingM Bool := do
  return handle ∈ (← get).visiting

def enter (handle : Handle) : WritingM Unit :=
  modify fun writing => { writing with visiting := handle :: writing.visiting }

def leave : WritingM Unit :=
  modify fun writing => { writing with visiting := writing.visiting.tail }

/-- Writes members one after another, with a comma before each but the first. -/
def members {α : Type} (write : α → WritingM Unit) (first : Bool) : List α → WritingM Unit
  | [] => pure ()
  | member :: rest => do
    put (if first then "" else ", ")
    write member
    members write false rest

end Writing

namespace Space

def callableText (space : Space) (handle : Handle) : Except Fault String := do
  match ← space.get handle with
  | .function closure => return "<function " ++ closure.displayName ++ ">"
  | .native callee => return "<native " ++ callee.name ++ ">"
  | other => throw (.notACallable other.kind)

/-- Writes the text of a value. Every container that is opened is closed again. -/
def write (space : Space) : Nat → Bool → Value → WritingM Unit
  | 0, _, _ => throw .endlessStructure
  | bound + 1, nested, value =>
    match value with
    | .string text => Writing.put (if nested then Quoted.text text else text)
    | .array handle => do
      if ← Writing.visits handle then Writing.put "<cycle>"
      else
        let items ← Act.ofExcept (space.array handle)
        if items.isEmpty then Writing.put "[]"
        else
          Writing.enter handle
          Writing.put "[ "
          Writing.members (space.write bound true) true items.toList
          Writing.put " ]"
          Writing.leave
    | .object handle => do
      if ← Writing.visits handle then Writing.put "<cycle>"
      else
        let data ← Act.ofExcept (space.objectData handle)
        if data.properties.entries.isEmpty then Writing.put "\x7b\x7d"
        else
          Writing.enter handle
          Writing.put "\x7b "
          Writing.members (fun entry => do
            Writing.put (entry.1 ++ ": ")
            space.write bound true entry.2) true data.properties.entries
          Writing.put " \x7d"
          Writing.leave
    | .callable handle => do Writing.put (← Act.ofExcept (space.callableText handle))
    | scalar => Writing.put scalar.text

/-- The text of a value. No value nests deeper than there are slots. -/
def display (space : Space) (value : Value) : Except Fault String :=
  match space.write (space.slots.size + 1) false value ⟨"", []⟩ with
  | (.ok _, writing) => .ok writing.out
  | (.error fault, _) => .error fault

end Space

end ScriptEngine
