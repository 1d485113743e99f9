import ScriptEngine.CallStack
import ScriptEngine.Class
import ScriptEngine.Space.Action
import ScriptEngine.Space.Display

set_option autoImplicit false

namespace ScriptEngine

/-- A write to a property of a wrapped object, as it is offered to the hook. -/
structure HostWrite where
  host : Nat
  object : Value
  key : String
  value : Value
  site : SourceInfo
  captures : List Value

/-- What a hook makes of a write: it stores a value, drops the write, or refuses it. -/
inductive HookAnswer where
  | store (value : Value)
  | absorb
  | reject (error : ScriptError)
  | abort (fault : Fault)

structure NativeCall where
  name : String
  arguments : List Value
  captures : List Value
  site : SourceInfo

namespace NativeCall

def capture (call : NativeCall) (index : Nat) : Except Fault Value :=
  match call.captures[index]? with
  | some value => .ok value
  | none => .error (.missingCapture index)

/-- The error of a call with other than `expected` arguments. -/
def miscounted (call : NativeCall) (expected : Nat) : ScriptError :=
  .ofKind (.arityMismatch call.name expected call.arguments.length)

end NativeCall

/-- A string, or the error that it should have been one. -/
def expectString : Value → Except ScriptError String
  | .string text => .ok text
  | other => .error (.ofKind (.typeMismatch "String" other.typeName))

structure View (σ τ : Type) where
  space : Space
  classes : ClassRegistry
  stack : CallStack
  own : σ
  queue : List τ

/-- The course of a native body. It can look around, act on the space, write a property as a
script would, change the state of the host, queue a task, call back into scripts, fire events and
run programs; what it does next depends on the answers. The stack of calls is not in its hands: it
neither pushes nor pops frames, and what it calls, fires or runs has the stack as it is at that
moment, and the site of the body's own call. -/
inductive NativeCourse (σ τ : Type) : Type 1 where
  | finish (result : Except ScriptError Value)
  | abort (fault : Fault)
  | look (next : View σ τ → NativeCourse σ τ)
  | act {α : Type} (action : SpaceAction α) (next : α → NativeCourse σ τ)
  | write (object : Value) (key : String) (value : Value) (site : SourceInfo)
      (next : Except ScriptError Unit → NativeCourse σ τ)
  | change (update : σ → σ) (next : NativeCourse σ τ)
  | queue (task : τ) (next : NativeCourse σ τ)
  | call (callee : Value) (arguments : List Value)
      (next : Except ScriptError Value → NativeCourse σ τ)
  | trigger (object : Value) (event : String) (data : Value)
      (next : Except ScriptError Unit → NativeCourse σ τ)
  | execute (context : ContextRef) (program : Program)
      (next : Except ScriptError (Value × ContextRef) → NativeCourse σ τ)

/-- The bodies and hooks of a host, by number. -/
structure Host (σ τ : Type) : Type 1 where
  native : Nat → NativeCall → NativeCourse σ τ
  hook : Nat → Space → HostWrite → σ → HookAnswer × σ

namespace NativeCourse

variable {σ τ : Type}

def succeed (value : Value) : NativeCourse σ τ := .finish (.ok value)

def fail (error : ScriptError) : NativeCourse σ τ := .finish (.error error)

/-- Goes on with a value unless a fault stands in its place. -/
def orAbort {α : Type} (result : Except Fault α) (next : α → NativeCourse σ τ) :
    NativeCourse σ τ :=
  match result with
  | .ok value => next value
  | .error fault => .abort fault

/-- Goes on with a value unless an error stands in its place. -/
def orFail {α : Type} (result : Except ScriptError α) (next : α → NativeCourse σ τ) :
    NativeCourse σ τ :=
  match result with
  | .ok value => next value
  | .error error => fail error

/-- Adds a listener to the object that the method belongs to. -/
def subscribe (call : NativeCall) : NativeCourse σ τ :=
  match call.arguments with
  | [event, callback] =>
    orFail (expectString event) fun event =>
      match callback with
      | .callable _ =>
        orAbort (call.capture 0) fun object =>
          .act (.addListener object event callback) fun _ => succeed object
      | other => fail (.ofKind (.typeMismatch "Callable" other.typeName))
  | _ => fail (call.miscounted 2)

/-- Removes all listeners of an event from the object that the method belongs to. -/
def unsubscribe (call : NativeCall) : NativeCourse σ τ :=
  match call.arguments with
  | [event] =>
    orFail (expectString event) fun event =>
      orAbort (call.capture 0) fun object =>
        .act (.removeListeners object event) fun _ => succeed object
  | _ => fail (call.miscounted 1)

/-- Fires an event of the object that the method belongs to. -/
def dispatch (call : NativeCall) : NativeCourse σ τ :=
  match call.arguments with
  | [event, data] =>
    orFail (expectString event) fun event =>
      orAbort (call.capture 0) fun object =>
        .trigger object event data fun result => orFail result fun _ => succeed .undefined
  | _ => fail (call.miscounted 2)

end NativeCourse

/-- A host without functions of its own, whose hooks store every write. -/
def Host.storing {σ τ : Type} : Host σ τ where
  native _ _ := .succeed .undefined
  hook _ _ write own := (.store write.value, own)

/-- The course of a native body in a host. -/
def Host.course {σ τ : Type} (host : Host σ τ) (body : NativeBody) (call : NativeCall) :
    NativeCourse σ τ :=
  match body with
  | .subscribe => .subscribe call
  | .unsubscribe => .unsubscribe call
  | .dispatch => .dispatch call
  | .host number => host.native number call

end ScriptEngine
