import ScriptEngine.Eval.Call
import ScriptEngine.Proofs.Lockstep

set_option autoImplicit false

namespace ScriptEngine

namespace Space

/-- A new object, a new context below another one, or other contents of the same kind for what is
there. -/
inductive Edit : Space → Space → Prop where
  | allocate {payload : Payload} (plain : payload.kind ≠ .context) (space : Space) :
      Edit space (Space.allocate payload space).2
  | fork (parent : ContextRef) (site : SourceInfo) (space : Space) :
      Edit space (Space.fork parent site space).2
  | store {space : Space} {handle : Handle} {old payload : Payload}
      (held : space.get? handle = some old) (kind : payload.kind = old.kind) :
      Edit space (Space.store handle payload space).2

def Edited : Space → Space → Prop := Relation.ReflTransGen Edit

/-- However it ends, the operation has made edits and nothing else. -/
def Edits {α : Type} (operation : SpaceM α) : Prop :=
  ∀ start, Act.Keeps (Edited start) operation

theorem Edits.edited {α : Type} {operation : SpaceM α} (edits : Edits operation) (space : Space) :
    Edited space (operation space).2 :=
  edits space space .refl

section Rules

variable {α β : Type}

theorem Edits.pure (value : α) : Edits (pure value : SpaceM α) :=
  fun _ => Act.Keeps.pure value

theorem Edits.ask (question : Space → Except Fault α) : Edits (Act.ask question) :=
  fun _ => Act.Keeps.ask question

theorem Edits.bind {first : SpaceM α} {next : α → SpaceM β} (before : Edits first)
    (after : ∀ value, Edits (next value)) : Edits (first >>= next) :=
  fun start => (before start).bind fun value => after value start

theorem edits_allocate {payload : Payload} (plain : payload.kind ≠ .context) :
    Edits (Space.allocate payload) :=
  fun _ space edited => edited.tail (.allocate plain space)

theorem edits_fork (parent : ContextRef) (site : SourceInfo) : Edits (Space.fork parent site) :=
  fun _ space edited => edited.tail (.fork parent site space)

theorem edits_replace {question : Space → Except Fault α} {handle : Handle}
    {contents : α → Payload}
    (held : ∀ space value, question space = .ok value →
      ∃ old, space.get? handle = some old ∧ (contents value).kind = old.kind) :
    Edits (do
      let value ← Act.ask question
      Space.store handle (contents value)) := by
  intro start space edited
  rw [Act.bind_apply]
  simp only [Act.ask]
  cases read : question space with
  | error fault => exact edited
  | ok value =>
    obtain ⟨old, found, kind⟩ := held space value read
    exact edited.tail (.store found kind)

end Rules

theorem edits_updateArray (handle : Handle) (change : Array Value → Array Value) :
    Edits (updateArray handle change) :=
  edits_replace fun _ _ read => ⟨_, array_eq_ok_iff.mp read, rfl⟩

theorem edits_updateObject (handle : Handle) (change : ObjectData → ObjectData) :
    Edits (updateObject handle change) :=
  edits_replace fun _ _ read => ⟨_, objectData_eq_ok_iff.mp read, rfl⟩

theorem edits_updateContext (context : ContextRef) (change : Context → Context) :
    Edits (updateContext context change) :=
  edits_replace fun _ _ read => ⟨_, context_eq_ok_iff.mp read, rfl⟩

theorem edits_allocateArray (items : Array Value) : Edits (allocateArray items) :=
  (edits_allocate (by simp [Payload.kind])).bind fun _ => .pure _

theorem edits_allocateObject (data : ObjectData) : Edits (allocateObject data) :=
  (edits_allocate (by simp [Payload.kind])).bind fun _ => .pure _

theorem edits_allocateFunction (closure : Closure) : Edits (allocateFunction closure) :=
  (edits_allocate (by simp [Payload.kind])).bind fun _ => .pure _

theorem edits_allocateNative (callee : NativeFunction) : Edits (allocateNative callee) :=
  (edits_allocate (by simp [Payload.kind])).bind fun _ => .pure _

theorem edits_define (context : ContextRef) (name : String) (value : Value)
    (mutability : Mutability) : Edits (define context name value mutability) :=
  edits_updateContext _ _

theorem edits_assign (context : ContextRef) (name : String) (value : Value) :
    Edits (assign context name value) := by
  unfold assign
  refine (Edits.ask _).bind fun owner => ?_
  cases owner with
  | none => exact .pure _
  | some owner =>
    refine (Edits.ask _).bind fun binding => ?_
    rcases binding with _ | ⟨old, _ | _⟩
    · exact .pure _
    · exact (edits_define _ _ _ _).bind fun _ => .pure _
    · exact .pure _

theorem edits_putProperty (handle : Handle) (key : String) (value : Value) :
    Edits (putProperty handle key value) :=
  edits_updateObject _ _

theorem edits_assignProperty (object : Value) (key : String) (value : Value) :
    Edits (assignProperty object key value) := by
  unfold assignProperty
  refine (Edits.ask _).bind fun handle => (Edits.ask _).bind fun changed => ?_
  cases changed with
  | true => exact (edits_putProperty _ _ _).bind fun _ => .pure _
  | false => exact .pure _

theorem edits_addListener (object : Value) (event : String) (callback : Value) :
    Edits (addListener object event callback) :=
  (Edits.ask _).bind fun _ => edits_updateObject _ _

theorem edits_removeListeners (object : Value) (event : String) :
    Edits (removeListeners object event) :=
  (Edits.ask _).bind fun _ => (Edits.ask _).bind fun _ =>
    (edits_updateObject _ _).bind fun _ => .pure _

theorem edits_removeProperty (object : Value) (key : String) :
    Edits (removeProperty object key) :=
  (Edits.ask _).bind fun _ => (Edits.ask _).bind fun _ =>
    (edits_updateObject _ _).bind fun _ => .pure _

theorem edits_updateLines (context : ContextRef) (change : List String → List String) :
    Edits (updateLines context change) :=
  (Edits.ask _).bind fun _ => edits_updateContext _ _

theorem edits_nameFunction (value : Value) (name : String) : Edits (nameFunction value name) := by
  cases value with
  | undefined | null | bool | int | float | string | array | object => exact .pure _
  | callable handle =>
    intro start space edited
    simp only [nameFunction, Act.bind_apply, Act.ask, Space.get]
    cases held : space.get? handle with
    | none => exact edited
    | some payload =>
      cases payload with
      | array | object | native | context => exact edited
      | function closure =>
        dsimp only
        split
        · exact edited.tail (.store held rfl)
        · exact edited

end Space

namespace Eval

open Space (Edits)

theorem edits_errorObject (error : ScriptError) : Edits (errorObject error) :=
  Space.edits_allocateObject _

theorem edits_bindArguments (context : ContextRef) :
    (bound : List (String × Value)) → Edits (bindArguments context bound)
  | [] => .pure _
  | (name, value) :: rest =>
    (Space.edits_define context name value .mutable).bind fun _ =>
      edits_bindArguments context rest

end Eval

end ScriptEngine
