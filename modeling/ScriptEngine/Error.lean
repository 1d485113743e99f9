import ScriptEngine.Operator
import ScriptEngine.Source

set_option autoImplicit false

namespace ScriptEngine

/-- The code of an error, as handlers name it. -/
inductive ErrorCode where
  | referenceError
  | typeError
  | invalidCall
  | invalidAssignment
  | operationNotSupported
  | rangeError
  | stackOverflow
  | engineError
  | custom (name : String)
deriving DecidableEq, Repr

namespace ErrorCode

def name : ErrorCode → String
  | .referenceError => "ReferenceError"
  | .typeError => "TypeError"
  | .invalidCall => "InvalidCall"
  | .invalidAssignment => "InvalidAssignment"
  | .operationNotSupported => "OperationNotSupported"
  | .rangeError => "RangeError"
  | .stackOverflow => "StackOverflow"
  | .engineError => "EngineError"
  | .custom name => name

/-- The code of a name. A name that no built-in code has is a code of its own. -/
def ofName (name : String) : ErrorCode :=
  if name = "ReferenceError" then .referenceError
  else if name = "TypeError" then .typeError
  else if name = "InvalidCall" then .invalidCall
  else if name = "InvalidAssignment" then .invalidAssignment
  else if name = "OperationNotSupported" then .operationNotSupported
  else if name = "RangeError" then .rangeError
  else if name = "StackOverflow" then .stackOverflow
  else if name = "EngineError" then .engineError
  else .custom name

@[simp] theorem name_ofName (text : String) : (ofName text).name = text := by
  unfold ofName
  repeat' split
  all_goals simp_all [name]

end ErrorCode

/-- A coarse grouping of the causes. -/
inductive ErrorCategory where
  | resolution
  | type
  | range
  | execution
deriving DecidableEq, Repr

def ErrorCategory.name : ErrorCategory → String
  | .resolution => "Resolution"
  | .type => "Type"
  | .range => "Range"
  | .execution => "Runtime"

inductive ErrorKind where
  | unresolvedVariable (name : String)
  | classAlreadyExists (name : String)
  | unknownClass (name : String)
  | immutableBinding (name : String)
  | invalidAssignmentTarget
  | writeRejected (key reason : String)
  | typeMismatch (expected got : String)
  | invalidOperands (op : Operator) (left right : String)
  | notCallable (typeName : String)
  | arityMismatch (name : String) (expected got : Nat)
  | invalidRange (lower upper : Int64) (length : Nat)
  | indexOutOfBounds (index : Int64) (length : Nat)
  | divisionByZero
  | integerOverflow (operation : String)
  | loopControlOutsideLoop (keyword : String)
  | stackOverflow (depth : Nat)
  | engineBusy
  | thrown (code reason : String)
deriving DecidableEq, Repr

namespace ErrorKind

def name : ErrorKind → String
  | .unresolvedVariable _ => "UnresolvedVariable"
  | .classAlreadyExists _ => "ClassAlreadyExists"
  | .unknownClass _ => "UnknownClass"
  | .immutableBinding _ => "ImmutableBinding"
  | .invalidAssignmentTarget => "InvalidAssignmentTarget"
  | .writeRejected _ _ => "WriteRejected"
  | .typeMismatch _ _ => "TypeMismatch"
  | .invalidOperands _ _ _ => "InvalidOperands"
  | .notCallable _ => "NotCallable"
  | .arityMismatch _ _ _ => "ArityMismatch"
  | .invalidRange _ _ _ => "InvalidRange"
  | .indexOutOfBounds _ _ => "IndexOutOfBounds"
  | .divisionByZero => "DivisionByZero"
  | .integerOverflow _ => "IntegerOverflow"
  | .loopControlOutsideLoop _ => "LoopControlOutsideLoop"
  | .stackOverflow _ => "StackOverflow"
  | .engineBusy => "EngineBusy"
  | .thrown _ _ => "Thrown"

def message : ErrorKind → String
  | .unresolvedVariable name => "unresolved variable: " ++ name
  | .classAlreadyExists name => "class already exists: " ++ name
  | .unknownClass name => "unknown class: " ++ name
  | .immutableBinding name => "cannot assign to const: " ++ name
  | .invalidAssignmentTarget => "invalid assignment target"
  | .writeRejected key reason => "write to `" ++ key ++ "` rejected: " ++ reason
  | .typeMismatch expected got => "type mismatch: expected " ++ expected ++ ", got " ++ got
  | .invalidOperands op left right =>
    "operator `" ++ op.symbol ++ "` cannot be applied to " ++ left ++ " and " ++ right
  | .notCallable typeName => typeName ++ " is not callable"
  | .arityMismatch name expected got =>
    name ++ " expects " ++ toString expected ++ " argument(s), got " ++ toString got
  | .invalidRange lower upper length =>
    "invalid range [" ++ toString lower.toInt ++ ":" ++ toString upper.toInt ++
      "] for array of length " ++ toString length
  | .indexOutOfBounds index length =>
    "index " ++ toString index.toInt ++ " out of bounds for array of length " ++ toString length
  | .divisionByZero => "division by zero"
  | .integerOverflow operation => "integer overflow in " ++ operation
  | .loopControlOutsideLoop keyword => keyword ++ " outside of loop"
  | .stackOverflow depth => "maximum call depth exceeded (limit: " ++ toString depth ++ ")"
  | .engineBusy => "engine is already executing on this thread"
  | .thrown _ reason => reason

def code : ErrorKind → ErrorCode
  | .unresolvedVariable _ | .classAlreadyExists _ | .unknownClass _ => .referenceError
  | .immutableBinding _ | .invalidAssignmentTarget | .writeRejected _ _ => .invalidAssignment
  | .typeMismatch _ _ | .invalidOperands _ _ _ => .typeError
  | .notCallable _ | .arityMismatch _ _ _ => .invalidCall
  | .invalidRange _ _ _ | .indexOutOfBounds _ _ => .rangeError
  | .divisionByZero | .integerOverflow _ | .loopControlOutsideLoop _ => .operationNotSupported
  | .stackOverflow _ => .stackOverflow
  | .engineBusy => .engineError
  | .thrown code _ => .ofName code

def category : ErrorKind → ErrorCategory
  | .unresolvedVariable _ | .classAlreadyExists _ | .unknownClass _ => .resolution
  | .typeMismatch _ _ | .invalidOperands _ _ _ | .notCallable _ | .arityMismatch _ _ _ => .type
  | .invalidRange _ _ _ | .indexOutOfBounds _ _ => .range
  | _ => .execution

end ErrorKind

/-- An active call: the name of the callee and the place that called it. -/
structure Frame where
  name : String
  site : SourceInfo
deriving DecidableEq, Repr, Inhabited

/-- The calls that were active at some moment, innermost first. -/
structure Backtrace where
  frames : List Frame
deriving DecidableEq, Repr

namespace Backtrace

def isEmpty (trace : Backtrace) : Bool := trace.frames.isEmpty

def length (trace : Backtrace) : Nat := trace.frames.length

private def line (numbered : Frame × Nat) : String :=
  "  " ++ toString numbered.2 ++ ": " ++ numbered.1.name ++ " at " ++ numbered.1.site.text ++ "\n"

/-- A heading and one numbered line for each call. No call gives no text. -/
def text (trace : Backtrace) : String :=
  if trace.isEmpty then ""
  else "stack backtrace:\n" ++ String.join (trace.frames.zipIdx.map line)

end Backtrace

/-- An error that a script can raise and catch: its cause, the place that raised it and, once it has
left a call, the calls that were active there. -/
structure ScriptError where
  kind : ErrorKind
  site : Option SourceInfo
  backtrace : Option Backtrace
deriving DecidableEq, Repr

namespace ScriptError

/-- An error that nothing is known about but its cause. -/
def ofKind (kind : ErrorKind) : ScriptError := ⟨kind, none, none⟩

instance : Coe ErrorKind ScriptError := ⟨ofKind⟩

def message (error : ScriptError) : String := error.kind.message

def code (error : ScriptError) : ErrorCode := error.kind.code

def category (error : ScriptError) : ErrorCategory := error.kind.category

def line (error : ScriptError) : Nat := (error.site.map SourceInfo.line).getD 0

def withSite (error : ScriptError) (site : SourceInfo) : ScriptError :=
  { error with site := some site }

/-- The first place that is known stays: an error that has one keeps it, and an empty source info
says nothing. -/
def locate (error : ScriptError) (site : SourceInfo) : ScriptError :=
  if error.site.isNone && !site.isEmpty then error.withSite site else error

def withBacktrace (error : ScriptError) (trace : Backtrace) : ScriptError :=
  { error with backtrace := some trace }

/-- Code, message and place on one line. -/
def text (error : ScriptError) : String :=
  let place := match error.site with
    | some site => " at " ++ site.text
    | none => ""
  error.code.name ++ ": " ++ error.message ++ place

end ScriptError

end ScriptEngine
