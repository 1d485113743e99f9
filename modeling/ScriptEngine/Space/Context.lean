import ScriptEngine.Error
import ScriptEngine.Space
import ScriptEngine.Text.Blank

set_option autoImplicit false

namespace ScriptEngine

inductive Assigned where
  | stored
  | immutable
  | undefined
deriving DecidableEq, Repr

namespace Space

/-- A chain that is longer than the space has slots does not end. -/
def chainBound (space : Space) : Nat := space.slots.size + 1

def sourceLines (source : String) : List String :=
  if source.isEmpty then [] else source.splitOn "\n"

def allocateContext (kind : ContextKind) : SpaceM ContextRef :=
  return ⟨← allocate (.context ⟨kind, ∅⟩)⟩

/-- A new global context for a script. It is pinned until it is released. -/
def newGlobal (path source : String) (separator : Char) : SpaceM ContextRef := do
  let context ← allocateContext (.global (.ofPath path separator) (sourceLines source))
  modify (·.pin context.handle)
  return context

def releaseGlobal (space : Space) (context : ContextRef) : Space := space.unpin context.handle

/-- A new context below `parent`, opened at `site`. -/
def fork (parent : ContextRef) (site : SourceInfo) : SpaceM ContextRef :=
  allocateContext (.child parent site)

def define (context : ContextRef) (name : String) (value : Value) (mutability : Mutability) :
    SpaceM Unit :=
  updateContext context fun data =>
    { data with bindings := data.bindings.insert name ⟨value, mutability⟩ }

def binding? (space : Space) (context : ContextRef) (name : String) :
    Except Fault (Option Binding) :=
  return (← space.context context).bindings.get? name

def local? (space : Space) (context : ContextRef) (name : String) :
    Except Fault (Option Value) :=
  return (← space.binding? context name).map (·.value)

def bindings (space : Space) (context : ContextRef) : Except Fault (List (String × Value)) :=
  return (← space.context context).bindings.entries.map fun (name, binding) =>
    (name, binding.value)

def ownerWithin (space : Space) (name : String) : Nat → ContextRef →
    Except Fault (Option ContextRef)
  | 0, _ => .error .brokenChain
  | bound + 1, context => do
    let data ← space.context context
    if data.bindings.contains name then return some context
    match data.parent? with
    | some parent => ownerWithin space name bound parent
    | none => return none

/-- The nearest context of the chain that binds the name. -/
def owner? (space : Space) (context : ContextRef) (name : String) :
    Except Fault (Option ContextRef) :=
  space.ownerWithin name space.chainBound context

def lookup? (space : Space) (context : ContextRef) (name : String) :
    Except Fault (Option Value) := do
  match ← space.owner? context name with
  | some owner => space.local? owner name
  | none => return none

/-- The value of a name, or the error that nothing binds it. -/
def resolve (space : Space) (context : ContextRef) (name : String) :
    Except Fault (Except ScriptError Value) :=
  return match ← space.lookup? context name with
    | some value => .ok value
    | none => .error (.ofKind (.unresolvedVariable name))

/-- Stores to the nearest binding of the name, if there is one and it may change. -/
def assign (context : ContextRef) (name : String) (value : Value) : SpaceM Assigned := do
  match ← Act.ask (·.owner? context name) with
  | none => return .undefined
  | some owner =>
    match ← Act.ask (·.binding? owner name) with
    | none => return .undefined
    | some ⟨_, .immutable⟩ => return .immutable
    | some ⟨_, .mutable⟩ =>
      define owner name value .mutable
      return .stored

def parent? (space : Space) (context : ContextRef) : Except Fault (Option ContextRef) :=
  return (← space.context context).parent?

def isGlobal (space : Space) (context : ContextRef) : Except Fault Bool :=
  return (← space.parent? context).isNone

def globalWithin (space : Space) : Nat → ContextRef → Except Fault ContextRef
  | 0, _ => .error .brokenChain
  | bound + 1, context => do
    match ← space.parent? context with
    | some parent => globalWithin space bound parent
    | none => return context

def globalOf (space : Space) (context : ContextRef) : Except Fault ContextRef :=
  space.globalWithin space.chainBound context

/-- The script and the source lines of the chain. -/
def script (space : Space) (context : ContextRef) : Except Fault (ScriptInfo × List String) := do
  match (← space.context (← space.globalOf context)).kind with
  | .global script lines => return (script, lines)
  | .child _ _ => throw .brokenChain

def scriptInfo (space : Space) (context : ContextRef) : Except Fault ScriptInfo :=
  return (← space.script context).1

/-- A line of the script, counted from one. Line zero is empty and lines past the end do not
exist. -/
def sourceLine? (space : Space) (context : ContextRef) (number : Nat) :
    Except Fault (Option String) :=
  match number with
  | 0 => return some ""
  | index + 1 => return (← space.script context).2[index]?

def sourceLineCount (space : Space) (context : ContextRef) : Except Fault Nat :=
  return (← space.script context).2.length

def updateLines (context : ContextRef) (change : List String → List String) :
    SpaceM Unit := do
  let global ← Act.ask (·.globalOf context)
  updateContext global fun data =>
    match data.kind with
    | .global script lines => { data with kind := .global script (change lines) }
    | .child _ _ => data

def addSourceLine (context : ContextRef) (line : String) : SpaceM Unit :=
  updateLines context (· ++ [line])

def addSourceLines (context : ContextRef) (lines : List String) : SpaceM Unit :=
  updateLines context (lines ++ ·)

/-- The place that opened the context, empty for a global one. -/
def openedAt (space : Space) (context : ContextRef) : Except Fault SourceInfo :=
  return match (← space.context context).kind with
    | .global _ _ => .empty
    | .child _ site => site

/-- An error for people to read: what happened, where, the line of the script and the calls. -/
def describe (space : Space) (context : ContextRef) (error : ScriptError) :
    Except Fault String := do
  let script ← space.scriptInfo context
  let place ←
    if error.line = 0 then pure ""
    else do
      let quoted := match ← space.sourceLine? context error.line with
        | some text => "\n  | " ++ trimEnd text
        | none => ""
      pure ("\n  at " ++ script.path ++ ":" ++ toString error.line ++ quoted)
  let calls := match error.backtrace with
    | some trace => if trace.isEmpty then "" else "\n" ++ trimEnd trace.text
    | none => ""
  return error.code.name ++ ": " ++ error.message ++ place ++ calls

end Space

end ScriptEngine
