import ScriptEngine.Config
import ScriptEngine.Eval.Call

set_option autoImplicit false

namespace ScriptEngine

/-- A space with the classes of its host and the settings that hold for it. The classes are roots of
all its collections. -/
structure Realm where
  space : Space := {}
  classes : ClassRegistry := {}
  config : Config := {}

/-- Why the text of a script could not be read. -/
inductive LoadError where
  | notFound
  | invalidText
deriving DecidableEq, Repr

abbrev RealmM (α : Type) := Act Realm Fault α

namespace Realm

def ofConfig (config : Config) : Realm := { config }

@[always_inline, inline]
def onSpace {α : Type} (operation : SpaceM α) : RealmM α := fun realm =>
  match realm with
  | ⟨space, classes, config⟩ =>
    let (result, space) := operation space
    (result, ⟨space, classes, config⟩)

def newStack (realm : Realm) : CallStack := .empty realm.config.maxCallDepth

def createGlobal (path source : String) : RealmM ContextRef := fun realm =>
  onSpace (Space.newGlobal path source realm.config.pathSeparator) realm

/-- A global context for the script at a path, given the bytes of the file there if there is one.
The empty path has no text. -/
def loadGlobal (path : String) (file : Option ByteArray) :
    RealmM (Except LoadError ContextRef) :=
  if path.isEmpty then Except.ok <$> createGlobal path ""
  else
    match file with
    | none => pure (.error .notFound)
    | some bytes =>
      match String.fromUTF8? bytes with
      | some source => Except.ok <$> createGlobal path source
      | none => pure (.error .invalidText)

/-- Binds a native function as a constant under its own name. -/
def defineNative (context : ContextRef) (callee : NativeFunction) : RealmM Value :=
  onSpace do
    let value ← Space.allocateNative callee
    Space.define context callee.name value .immutable
    return value

def registerClass (realm : Realm) (name : String) (spec : ClassSpec) :
    Except ScriptError Unit × Realm :=
  match realm.classes.register name spec with
  | .ok classes => (.ok (), { realm with classes })
  | .error error => (.error error, realm)

/-- A new instance of a class for a host. -/
def wrap (className : String) (host : Nat) (extra : List (String × Value)) :
    RealmM (Except ScriptError Value) := do
  match (← get).classes.get? className with
  | some entry => onSpace (Except.ok <$> Space.wrapInstance entry host extra)
  | none => pure (.error (.ofKind (.unknownClass className)))

/-- Collects with the classes and `extra` as further roots. -/
def collect (realm : Realm) (extra : List Handle) : CollectStats × Realm :=
  let (stats, space) := realm.space.collect (realm.classes.references ++ extra)
  (stats, { realm with space })

/-- Whether a collection is due: enough has been allocated, or one was put off. -/
def collectionDue (realm : Realm) : Bool :=
  (realm.config.gcThreshold != 0 && realm.config.gcThreshold ≤ realm.space.allocated) ||
    realm.space.collectRequested

def maybeCollect (realm : Realm) (extra : List Handle) : Option CollectStats × Realm :=
  if realm.collectionDue then
    let (stats, realm) := realm.collect extra
    (some stats, realm)
  else (none, realm)

end Realm

/-- A realm together with the state of the host and its queue of tasks. -/
structure World (σ τ : Type) where
  realm : Realm
  own : σ
  queue : List τ

abbrev WorldM (σ τ α : Type) := Act (World σ τ) Halt α

namespace World

variable {σ τ α : Type}

/-- Runs something in the realm of a world, on a stack of its own. -/
@[always_inline, inline]
def run (stack : CallStack) (body : ClassRegistry → Run σ τ Halt α) : WorldM σ τ α :=
  fun world =>
    match world with
    | ⟨⟨space, classes, config⟩, own, queue⟩ =>
      match body classes ⟨space, stack, own, queue⟩ with
      | (result, ⟨space, _, own, queue⟩) => (result, ⟨⟨space, classes, config⟩, own, queue⟩)

/-- Runs something on a new stack with the depth limit of the realm. -/
@[always_inline, inline]
def runFresh (body : ClassRegistry → Run σ τ Halt α) : WorldM σ τ α := fun world =>
  run world.realm.newStack body world

/-- Runs a program in a new context below `context`. -/
def executeModule (host : Host σ τ) (fuel : Nat) (context : ContextRef) (program : Program) :
    WorldM σ τ (Value × ContextRef) :=
  runFresh fun classes => Eval.executeModule (Eval.environment host classes fuel) context program

def execute (host : Host σ τ) (fuel : Nat) (context : ContextRef) (program : Program) :
    WorldM σ τ Value :=
  return (← executeModule host fuel context program).1

def call (host : Host σ τ) (fuel : Nat) (callee : Value) (arguments : List Value) :
    WorldM σ τ Value :=
  runFresh fun classes => Eval.call host classes fuel callee arguments .empty

/-- Calls a value from a given place, on a stack with a given limit. -/
def callAt (host : Host σ τ) (fuel : Nat) (limit : Option Nat) (callee : Value)
    (arguments : List Value) (site : SourceInfo) : WorldM σ τ Value :=
  run (.empty limit) fun classes => Eval.call host classes fuel callee arguments site

def trigger (host : Host σ τ) (fuel : Nat) (object : Value) (event : String) (data : Value) :
    WorldM σ τ Unit :=
  runFresh fun classes =>
    Eval.triggerEvent (Eval.environment host classes fuel) object event data .empty

def setProperty (host : Host σ τ) (object : Value) (key : String) (value : Value)
    (site : SourceInfo) : WorldM σ τ Unit :=
  runFresh fun _ => Eval.setProperty host object key value site

end World

end ScriptEngine
