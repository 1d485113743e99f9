import ScriptEngine.Space

set_option autoImplicit false

namespace ScriptEngine

/-- What a callable value stands for. -/
inductive CallTarget where
  | function (closure : Closure)
  | native (callee : NativeFunction)

namespace Space

def callTarget (space : Space) (handle : Handle) : Except Fault CallTarget := do
  match ← space.get handle with
  | .function closure => return .function closure
  | .native callee => return .native callee
  | other => throw (.notACallable other.kind)

/-- The number of arguments that a callable demands, if it demands one. -/
def arity? (space : Space) (value : Value) : Except Fault (Option Nat) :=
  match value with
  | .callable handle => do
    match ← space.get handle with
    | .function closure => return some closure.parameters.length
    | .native callee => return callee.arity
    | _ => return none
  | _ => return none

/-- Names a closure that has no name yet. Other values stay as they are. -/
def nameFunction (value : Value) (name : String) : SpaceM Unit :=
  match value with
  | .callable handle => do
    match ← Act.ask (·.get handle) with
    | .function closure =>
      if closure.name.isNone then store handle (.function { closure with name := some name })
    | _ => return
  | _ => return

end Space

end ScriptEngine
