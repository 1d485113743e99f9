import ScriptEngine.Error

set_option autoImplicit false

namespace ScriptEngine

/-- The frames stand innermost first. Without a limit calls may nest to any depth. -/
structure CallStack where
  frames : List Frame
  limit : Option Nat
deriving DecidableEq, Repr

namespace CallStack

def empty (limit : Option Nat) : CallStack := ⟨[], limit⟩

def depth (stack : CallStack) : Nat := stack.frames.length

def isEmpty (stack : CallStack) : Bool := stack.frames.isEmpty

/-- Enters a call. At the limit the call is refused and the stack stays as it is. -/
def push (stack : CallStack) (frame : Frame) : Except ScriptError CallStack :=
  match stack.limit with
  | some limit =>
    if limit ≤ stack.depth then .error (.ofKind (.stackOverflow limit))
    else .ok { stack with frames := frame :: stack.frames }
  | none => .ok { stack with frames := frame :: stack.frames }

def pop (stack : CallStack) : CallStack := { stack with frames := stack.frames.tail }

/-- The place that the innermost call was made from. -/
def site? (stack : CallStack) : Option SourceInfo := stack.frames.head?.map (·.site)

def capture (stack : CallStack) : Backtrace := ⟨stack.frames⟩

/-- Gives an error the active calls, unless it knows its own or there are none. -/
def attach (stack : CallStack) (error : ScriptError) : ScriptError :=
  if stack.isEmpty || error.backtrace.isSome then error else error.withBacktrace stack.capture

theorem pop_push {stack pushed : CallStack} {frame : Frame}
    (entered : stack.push frame = .ok pushed) : pushed.pop = stack := by
  unfold push at entered
  split at entered
  · split at entered
    · cases entered
    · cases entered; rfl
  · cases entered; rfl

theorem depth_le_of_push {stack pushed : CallStack} {frame : Frame} {limit : Nat}
    (limited : stack.limit = some limit) (entered : stack.push frame = .ok pushed) :
    pushed.depth ≤ limit := by
  unfold push at entered
  rw [limited] at entered
  dsimp only at entered
  split at entered
  · cases entered
  · cases entered
    simp only [depth, List.length_cons] at *
    omega

end CallStack

end ScriptEngine
