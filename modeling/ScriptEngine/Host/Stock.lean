import ScriptEngine.Host

set_option autoImplicit false

namespace ScriptEngine

inductive StockFunction where
  /-- An array of the arguments. -/
  | args
  /-- The first capture. -/
  | capture
  /-- Hands the texts of the arguments to the host. -/
  | print
  /-- Calls the first argument with the others. -/
  | apply
  /-- Calls the first capture with the arguments. -/
  | applyCapture
  /-- An array of two values, the second one first. -/
  | pair
  /-- The argument, which must be a string. -/
  | str
  /-- Raises an error of a code, for a reason. -/
  | fail
  /-- Raises an error at a line of the host. -/
  | failAt
  /-- Asks for a collection, and says whether it was put off. -/
  | gc
  /-- The number of active calls. -/
  | depth
  /-- The line that the function is called from. -/
  | line
  /-- The place that the innermost active call was made from. -/
  | site
  /-- The active calls as text. -/
  | trace
  /-- The number of live slots. -/
  | live
  /-- Whether a script is being executed. -/
  | executing
  /-- The name of the type of a value. -/
  | typeOf
  /-- The text of a value. -/
  | display
  /-- The number of arguments that a callable demands. -/
  | arity
  /-- Whether two values are identical. -/
  | same
  /-- The keys of an object. -/
  | keys
  /-- Removes a property, and gives its value. -/
  | remove
  /-- Empties an array. -/
  | truncate
  /-- Whether there is a class of a name. -/
  | hasClass
  /-- Leaves a call for later. -/
  | defer
  /-- Asks the engine for another execution, which it refuses during this one. -/
  | reenter
deriving DecidableEq, Repr

/-- What the stock needs of a host: a place for printed lines, a task that makes a call, and the
name of the file that its own errors come from. -/
structure StockPorts (σ τ : Type) where
  print : String → σ → σ
  defer : Value → List Value → τ
  file : String

namespace StockFunction

def all : List StockFunction :=
  [.args, .capture, .print, .apply, .applyCapture, .pair, .str, .fail, .failAt, .gc, .depth, .line,
    .site, .trace, .live, .executing, .typeOf, .display, .arity, .same, .keys, .remove, .truncate,
    .hasClass, .defer, .reenter]

/-- The name under which scripts find the function. -/
def name : StockFunction → String
  | .args => "args"
  | .capture => "capture"
  | .print => "print"
  | .apply => "apply"
  | .applyCapture => "apply_capture"
  | .pair => "pair"
  | .str => "str"
  | .fail => "fail"
  | .failAt => "fail_at"
  | .gc => "gc"
  | .depth => "depth"
  | .line => "line"
  | .site => "site"
  | .trace => "trace"
  | .live => "live"
  | .executing => "executing"
  | .typeOf => "type"
  | .display => "show"
  | .arity => "arity"
  | .same => "same"
  | .keys => "keys"
  | .remove => "remove"
  | .truncate => "truncate"
  | .hasClass => "has_class"
  | .defer => "defer"
  | .reenter => "reenter"

def body? (name : String) : Option NativeBody :=
  (all.findIdx? (·.name == name)).map .host

variable {σ τ : Type}

private def unary (call : NativeCall) (next : Value → NativeCourse σ τ) : NativeCourse σ τ :=
  match call.arguments with
  | [only] => next only
  | _ => .fail (call.miscounted 1)

private def binary (call : NativeCall) (next : Value → Value → NativeCourse σ τ) :
    NativeCourse σ τ :=
  match call.arguments with
  | [first, second] => next first second
  | _ => .fail (call.miscounted 2)

private def applied (name : String) (call : NativeCall)
    (next : Value → List Value → NativeCourse σ τ) : NativeCourse σ τ :=
  match call.arguments with
  | [] => .fail (.ofKind (.arityMismatch name 1 0))
  | callee :: arguments => next callee arguments

private def count (n : Nat) : NativeCourse σ τ := .succeed (.int (.ofNat n))

private def text (content : String) : NativeCourse σ τ := .succeed (.string content)

private def flag (value : Bool) : NativeCourse σ τ := .succeed (.bool value)

private def array (items : List Value) : NativeCourse σ τ :=
  .act (.allocateArray items.toArray) .succeed

/-- Goes on with what the space says, unless it is a fault. -/
private def asking {α : Type} (question : Space → Except Fault α)
    (next : α → NativeCourse σ τ) : NativeCourse σ τ :=
  .look fun view => .orAbort (question view.space) next

/-- The line that a number stands for, zero when it stands for none. -/
private def lineOf : Value → Nat
  | .int n => if 0 ≤ n.toInt ∧ n.toInt < UInt32.size then n.toInt.toNat else 0
  | _ => 0

def course (ports : StockPorts σ τ) (function : StockFunction) (call : NativeCall) :
    NativeCourse σ τ :=
  match function with
  | .args => array call.arguments
  | .capture => .orAbort (call.capture 0) .succeed
  | .print =>
    asking (fun space => call.arguments.mapM space.display) fun texts =>
      .change (ports.print (" ".intercalate texts)) (.succeed .undefined)
  | .apply => applied "apply" call fun callee arguments => .call callee arguments .finish
  | .applyCapture =>
    .orAbort (call.capture 0) fun callee => .call callee call.arguments .finish
  | .pair => binary call fun first second => array [second, first]
  | .str => unary call fun value => .orFail (expectString value) text
  | .fail =>
    binary call fun code reason =>
      .orFail (expectString code) fun code =>
        .orFail (expectString reason) fun reason => .fail (.ofKind (.thrown code reason))
  | .failAt =>
    unary call fun value =>
      .fail ((ScriptError.ofKind (.thrown "HostError" "located")).withSite
        (.point ports.file (lineOf value) 1))
  | .gc => .act (.collect []) fun stats => flag stats.deferred
  | .depth => .look fun view => count view.stack.depth
  | .line => count call.site.line
  | .site => .look fun view => text ((view.stack.site?.map SourceInfo.text).getD "")
  | .trace => .look fun view => text view.stack.capture.text
  | .live => .look fun view => count view.space.live
  | .executing => .look fun view => flag view.space.inExecution
  | .typeOf => unary call fun value => text value.typeName
  | .display => unary call fun value => asking (·.display value) text
  | .arity =>
    unary call fun value =>
      asking (·.arity? value) fun arity => (arity.map count).getD (.succeed .undefined)
  | .same => binary call fun first second => flag (first.identical second)
  | .keys =>
    unary call fun object => asking (·.propertyKeys object) fun keys => array (keys.map .string)
  | .remove =>
    binary call fun object key =>
      .orFail (expectString key) fun key =>
        .act (.removeProperty object key) fun old => .succeed (old.getD .null)
  | .truncate =>
    unary call fun value =>
      match value with
      | .array handle => .act (.updateArray handle fun _ => #[]) fun _ => .succeed (.int 0)
      | other => .fail (.ofKind (.typeMismatch "Array" other.typeName))
  | .hasClass =>
    unary call fun name =>
      .orFail (expectString name) fun name => .look fun view => flag (view.classes.contains name)
  | .defer =>
    applied "defer" call fun callee arguments =>
      .queue (ports.defer callee arguments) (flag true)
  | .reenter => .fail (.ofKind .engineBusy)

/-- The course of a call to the function with a number in the stock. -/
def courseAt (ports : StockPorts σ τ) (number : Nat) (call : NativeCall) : NativeCourse σ τ :=
  match all[number]? with
  | some function => function.course ports call
  | none => .succeed .undefined

end StockFunction

end ScriptEngine
