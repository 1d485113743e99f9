import ScriptEngine.Space.Callable
import ScriptEngine.Space.Collect
import ScriptEngine.Space.Context
import ScriptEngine.Space.Object

set_option autoImplicit false

namespace ScriptEngine

/-- An operation that a space offers to its host, as data, with the type of its answer. Mutable
access to a payload is among these only as far as an array is changed or a property is stored: to
put another payload into a live slot, of another kind perhaps, is left out, and so native functions
cannot do it. `Space.Step` has such writes for what is said about all reachable spaces. -/
inductive SpaceAction : Type → Type where
  | allocateArray (items : Array Value) : SpaceAction Value
  | allocateObject (data : ObjectData) : SpaceAction Value
  | allocateFunction (closure : Closure) : SpaceAction Value
  | allocateNative (callee : NativeFunction) : SpaceAction Value
  | updateArray (array : Handle) (change : Array Value → Array Value) : SpaceAction Unit
  | newGlobal (path source : String) (separator : Char) : SpaceAction ContextRef
  | releaseGlobal (context : ContextRef) : SpaceAction Unit
  | fork (parent : ContextRef) (site : SourceInfo) : SpaceAction ContextRef
  | define (context : ContextRef) (name : String) (value : Value) (mutability : Mutability) :
      SpaceAction Unit
  | assign (context : ContextRef) (name : String) (value : Value) : SpaceAction Assigned
  | addSourceLine (context : ContextRef) (line : String) : SpaceAction Unit
  | addSourceLines (context : ContextRef) (lines : List String) : SpaceAction Unit
  | putProperty (object : Handle) (key : String) (value : Value) : SpaceAction Unit
  | assignProperty (object : Value) (key : String) (value : Value) : SpaceAction Bool
  | removeProperty (object : Value) (key : String) : SpaceAction (Option Value)
  | addListener (object : Value) (event : String) (callback : Value) : SpaceAction Unit
  | removeListeners (object : Value) (event : String) : SpaceAction Nat
  | wrapObject (object : Value) (host : Nat) (setter : Option Nat) (captures : List Value) :
      SpaceAction Unit
  | unlink (object : Value) : SpaceAction (Option Nat)
  | pin (handle : Handle) : SpaceAction Unit
  | unpin (handle : Handle) : SpaceAction Unit
  | addProvider (values : List Value) : SpaceAction Nat
  | setProvider (number : Nat) (values : List Value) : SpaceAction Unit
  | dropProvider (number : Nat) : SpaceAction Unit
  | collect (extra : List Handle) : SpaceAction CollectStats

namespace SpaceAction

def run {α : Type} : SpaceAction α → SpaceM α
  | .allocateArray items => Space.allocateArray items
  | .allocateObject data => Space.allocateObject data
  | .allocateFunction closure => Space.allocateFunction closure
  | .allocateNative callee => Space.allocateNative callee
  | .updateArray array change => Space.updateArray array change
  | .newGlobal path source separator => Space.newGlobal path source separator
  | .releaseGlobal context => modify (·.releaseGlobal context)
  | .fork parent site => Space.fork parent site
  | .define context name value mutability => Space.define context name value mutability
  | .assign context name value => Space.assign context name value
  | .addSourceLine context line => Space.addSourceLine context line
  | .addSourceLines context lines => Space.addSourceLines context lines
  | .putProperty object key value => Space.putProperty object key value
  | .assignProperty object key value => Space.assignProperty object key value
  | .removeProperty object key => Space.removeProperty object key
  | .addListener object event callback => Space.addListener object event callback
  | .removeListeners object event => Space.removeListeners object event
  | .wrapObject object host setter captures => Space.wrapObject object host setter captures
  | .unlink object => Space.unlink object
  | .pin handle => modify (·.pin handle)
  | .unpin handle => modify (·.unpin handle)
  | .addProvider values => modifyGet (·.addProvider values)
  | .setProvider number values => modify (·.setProvider number values)
  | .dropProvider number => modify (·.dropProvider number)
  | .collect extra => modifyGet (·.collect extra)

end SpaceAction

end ScriptEngine
