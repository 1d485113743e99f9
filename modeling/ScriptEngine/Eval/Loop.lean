import ScriptEngine.Run

set_option autoImplicit false

namespace ScriptEngine

/-- Whether a loop stops, and whether the reason ends with it. -/
structure LoopVerdict where
  stops : Bool
  clears : Bool
deriving DecidableEq, Repr

namespace Eval

variable {σ τ : Type}

def loopVerdict {α : Type} : Except Exit α → LoopVerdict
  | .ok _ => ⟨false, false⟩
  | .error (.jumped .leave) => ⟨true, true⟩
  | .error (.jumped .next) => ⟨false, true⟩
  | .error (.returned _) | .error (.halted _) => ⟨true, false⟩

/-- How the loop ends after a pass, or nothing if it goes on. -/
def loopEnd? (result : Except Exit Unit) : Option (Except Exit Unit) :=
  let verdict := loopVerdict result
  if verdict.stops then some (if verdict.clears then .ok () else result) else none

/-- Passes through the body for as long as the condition holds, `bound` times at most. -/
def repeatWhile (condition : Run σ τ Exit Bool) (body : Run σ τ Exit Unit) :
    Nat → RunState σ τ → Except Exit Unit × RunState σ τ
  | 0, state => (.error (.halted .outOfFuel), state)
  | bound + 1, state =>
    match condition state with
    | (.ok true, state) =>
      match body state with
      | (result, state) =>
        match loopEnd? result with
        | some result => (result, state)
        | none => repeatWhile condition body bound state
    | (.ok false, state) => (.ok (), state)
    | (.error exit, state) => (.error exit, state)

/-- Passes through the body once for each item. -/
def forEach (body : Value → Run σ τ Exit Unit) :
    List Value → RunState σ τ → Except Exit Unit × RunState σ τ
  | [], state => (.ok (), state)
  | item :: rest, state =>
    match body item state with
    | (result, state) =>
      match loopEnd? result with
      | some result => (result, state)
      | none => forEach body rest state

end Eval

end ScriptEngine
