import Mathlib.Data.List.Nodup
import ScriptEngine.Realm

set_option autoImplicit false

namespace ScriptEngine

theorem Table.get?_insertAll {κ α : Type} [Ord κ] [Std.TransOrd κ] [Std.LawfulEqOrd κ] [BEq κ]
    [LawfulBEq κ] (table : Table κ α) (entries : List (κ × α)) (key : κ) :
    (table.insertAll entries).get? key = (entries.reverse.lookup key).or (table.get? key) := by
  induction entries generalizing table with
  | nil => rfl
  | cons first rest ih =>
    obtain ⟨at', value⟩ := first
    have step : table.insertAll ((at', value) :: rest) = (table.insert at' value).insertAll rest :=
      rfl
    rw [step, ih, List.reverse_cons, List.lookup_append, Option.or_assoc]
    congr 1
    by_cases same : key = at'
    · subst same
      simp
    · simp [List.lookup_cons, Table.get?_insert_of_ne, same, beq_eq_false_iff_ne.mpr same]

/-- The name of a class with the spec that it was registered with. -/
abbrev Registration := String × ClassSpec

/-- The last value that a spec gives for a key. -/
def ClassSpec.value? (spec : ClassSpec) (key : String) : Option Value :=
  spec.properties.reverse.lookup key

/-- The hook of the first spec that has one, with the captures from there. Without a hook the
captures are those of the last spec. -/
def inheritedHook (line : List Registration) : Option Nat × List Value :=
  match line.find? (·.2.setter.isSome) with
  | some (_, spec) => (spec.setter, spec.captures)
  | none => (none, (line.getLast?.map (·.2.captures)).getD [])

/-- The class is what the specs of its line make it, the most derived one first. -/
structure ClassDef.Inherits (entry : ClassDef) (line : List Registration) : Prop where
  properties : ∀ key, entry.properties.get? key = line.findSome? (·.2.value? key)
  hook : (entry.setter, entry.captures) = inheritedHook line
  triggers : entry.triggers = line.any (·.2.triggers)

theorem ClassSpec.inherits_alone (spec : ClassSpec) (name : String) :
    (spec.alone name).Inherits [(name, spec)] where
  properties key := by
    simp [alone, Table.ofList, Table.get?_insertAll, value?, Table.get?_empty]
  hook := by
    cases given : spec.setter with
    | none => simp [alone, inheritedHook, given]
    | some setter => simp [alone, inheritedHook, given]
  triggers := by simp [alone]

theorem ClassSpec.inherits_below (spec : ClassSpec) (name : String) {parent : ClassDef}
    {line : List Registration} (inherits : parent.Inherits line) (proper : line ≠ []) :
    (spec.below name parent).Inherits ((name, spec) :: line) where
  properties key := by
    simp only [below, Table.get?_insertAll, inherits.properties key, List.findSome?_cons, value?]
    cases List.lookup key spec.properties.reverse <;> rfl
  hook := by
    cases given : spec.setter with
    | some setter => simp [below, inheritedHook, given]
    | none =>
      have same : inheritedHook ((name, spec) :: line) = inheritedHook line := by
        obtain ⟨first, rest, rfl⟩ := List.exists_cons_of_ne_nil proper
        simp [inheritedHook, given, List.getLast?_cons_cons]
      rw [same, ← inherits.hook]
      simp [below, given]
  triggers := by simp [below, inherits.triggers]

namespace ClassRegistry

/-- The class that a registration adds. -/
inductive Admits (registry : ClassRegistry) : Registration → ClassDef → Prop where
  | alone {name : String} {spec : ClassSpec} (vacant : registry.get? name = none)
      (top : spec.parent = none) : Admits registry (name, spec) (spec.alone name)
  | derived {name parent : String} {spec : ClassSpec} {above : ClassDef}
      (vacant : registry.get? name = none) (under : spec.parent = some parent)
      (found : registry.get? parent = some above) :
      Admits registry (name, spec) (spec.below name above)

/-- Why a registration is refused: the name is taken, or the parent is not there. -/
inductive Refuses (registry : ClassRegistry) : Registration → ErrorKind → Prop where
  | taken {name : String} {spec : ClassSpec} {entry : ClassDef}
      (found : registry.get? name = some entry) :
      Refuses registry (name, spec) (.classAlreadyExists name)
  | orphan {name parent : String} {spec : ClassSpec} (vacant : registry.get? name = none)
      (under : spec.parent = some parent) (missing : registry.get? parent = none) :
      Refuses registry (name, spec) (.unknownClass parent)

theorem Admits.vacant {registry : ClassRegistry} {call : Registration} {entry : ClassDef}
    (admits : registry.Admits call entry) : registry.get? call.1 = none := by
  cases admits with
  | alone vacant => exact vacant
  | derived vacant => exact vacant

theorem get?_add (registry : ClassRegistry) (name other : String) (entry : ClassDef) :
    (registry.add name entry).get? other =
      if other = name then some entry else registry.get? other :=
  Table.get?_insert registry.classes name other entry

theorem register_cases (registry : ClassRegistry) (call : Registration) :
    (∃ kind, registry.Refuses call kind ∧
      registry.register call.1 call.2 = .error (.ofKind kind)) ∨
    ∃ entry, registry.Admits call entry ∧
      registry.register call.1 call.2 = .ok (registry.add call.1 entry) := by
  obtain ⟨name, spec⟩ := call
  have contained : registry.contains name = (registry.get? name).isSome := rfl
  cases found : registry.get? name with
  | some entry =>
    refine Or.inl ⟨_, .taken found, ?_⟩
    simp [register, contained, found]
  | none =>
    cases under : spec.parent with
    | none =>
      refine Or.inr ⟨_, .alone found under, ?_⟩
      simp [register, contained, found, under]
    | some parent =>
      cases above : registry.get? parent with
      | none =>
        refine Or.inl ⟨_, .orphan found under above, ?_⟩
        simp [register, contained, found, under, above]
      | some entry =>
        refine Or.inr ⟨_, .derived found under above, ?_⟩
        simp [register, contained, found, under, above]

end ClassRegistry

/-- A registration is refused and nothing changes, or it is accepted and adds one class. -/
theorem Realm.registerClass_cases (realm : Realm) (call : Registration) :
    (∃ kind, realm.classes.Refuses call kind ∧
      realm.registerClass call.1 call.2 = (.error (.ofKind kind), realm)) ∨
    ∃ entry, realm.classes.Admits call entry ∧
      realm.registerClass call.1 call.2 =
        (.ok (), { realm with classes := realm.classes.add call.1 entry }) := by
  unfold registerClass
  rcases realm.classes.register_cases call with
    ⟨kind, refuses, failed⟩ | ⟨entry, admits, added⟩
  · exact Or.inl ⟨kind, refuses, by rw [failed]⟩
  · exact Or.inr ⟨entry, admits, by rw [added]⟩

/-- A realm beside the registrations that it has accepted, the latest first. -/
structure Roll where
  realm : Realm
  accepted : List Registration

namespace Roll

def register (roll : Roll) (call : Registration) : Roll :=
  match roll.realm.registerClass call.1 call.2 with
  | (.ok _, realm) => ⟨realm, call :: roll.accepted⟩
  | (.error _, realm) => ⟨realm, roll.accepted⟩

/-- Registers classes one after the other. Some of them may be refused. -/
def registerAll (roll : Roll) (calls : List Registration) : Roll := calls.foldl register roll

/-- The parent links of the classes from a name up to a class without a parent, with the
registration of each class on the way. -/
inductive Lineage (roll : Roll) : String → List Registration → Prop where
  | root {name : String} {spec : ClassSpec} {entry : ClassDef}
      (registered : roll.realm.classes.get? name = some entry)
      (given : (name, spec) ∈ roll.accepted) (top : entry.parent = none) :
      Lineage roll name [(name, spec)]
  | derived {name parent : String} {spec : ClassSpec} {entry : ClassDef}
      {line : List Registration} (registered : roll.realm.classes.get? name = some entry)
      (given : (name, spec) ∈ roll.accepted) (under : entry.parent = some parent)
      (above : Lineage roll parent line) : Lineage roll name ((name, spec) :: line)

/-- A class is what its lineage makes it. -/
structure Describes (roll : Roll) (name : String) (entry : ClassDef) : Prop where
  named : entry.name = name
  line : ∃ line, roll.Lineage name line ∧ (line.map Prod.fst).Nodup ∧ entry.Inherits line

/-- Every name is registered once, and every class is what its lineage makes it. -/
structure Orderly (roll : Roll) : Prop where
  once : (roll.accepted.map Prod.fst).Nodup
  listed : ∀ name, (roll.realm.classes.get? name).isSome = true ↔ name ∈ roll.accepted.map Prod.fst
  described : ∀ {name entry}, roll.realm.classes.get? name = some entry → roll.Describes name entry

theorem Lineage.registered {roll : Roll} {name : String} {line : List Registration}
    (lineage : roll.Lineage name line) :
    line ≠ [] ∧ ∀ other ∈ line.map Prod.fst, (roll.realm.classes.get? other).isSome = true := by
  induction lineage with
  | root registered => simp [registered]
  | derived registered given under above ih =>
    refine ⟨List.cons_ne_nil _ _, List.forall_mem_cons.mpr ⟨?_, ih.2⟩⟩
    simp [registered]

theorem Lineage.mono {roll larger : Roll} {name : String} {line : List Registration}
    (kept : ∀ {name entry}, roll.realm.classes.get? name = some entry →
      larger.realm.classes.get? name = some entry)
    (longer : roll.accepted ⊆ larger.accepted) (lineage : roll.Lineage name line) :
    larger.Lineage name line := by
  induction lineage with
  | root registered given top => exact .root (kept registered) (longer given) top
  | derived registered given under above ih =>
    exact .derived (kept registered) (longer given) under ih

/-- The roll after a registration that is accepted. -/
private def enter (roll : Roll) (call : Registration) (entry : ClassDef) : Roll :=
  ⟨{ roll.realm with classes := roll.realm.classes.add call.1 entry }, call :: roll.accepted⟩

section Entered

variable {roll : Roll} {call : Registration} {entry : ClassDef}

private theorem enter_kept (vacant : roll.realm.classes.get? call.1 = none) {name : String}
    {old : ClassDef} (found : roll.realm.classes.get? name = some old) :
    (roll.enter call entry).realm.classes.get? name = some old := by
  have apart : name ≠ call.1 := by
    rintro rfl
    rw [vacant] at found
    cases found
  rw [enter, ClassRegistry.get?_add, if_neg apart]
  exact found

private theorem Lineage.enter (vacant : roll.realm.classes.get? call.1 = none) {name : String}
    {line : List Registration} (lineage : roll.Lineage name line) :
    (roll.enter call entry).Lineage name line :=
  lineage.mono (enter_kept vacant) (List.subset_cons_self call roll.accepted)

/-- The lineage of a new class is the class itself and the lineage of its parent. -/
private theorem enter_describes (orderly : roll.Orderly)
    (admits : roll.realm.classes.Admits call entry) :
    (roll.enter call entry).Describes call.1 entry := by
  have here : (roll.enter call entry).realm.classes.get? call.1 = some entry := by
    rw [enter, ClassRegistry.get?_add, if_pos rfl]
  have given : call ∈ (roll.enter call entry).accepted := List.mem_cons_self ..
  have vacant := admits.vacant
  cases admits with
  | @alone name spec _ top =>
    refine ⟨rfl, [(name, spec)], .root here given top, List.nodup_singleton _, ?_⟩
    exact spec.inherits_alone name
  | @derived name parent spec above _ under found =>
    obtain ⟨line, lineage, distinct, inherits⟩ := (orderly.described found).line
    obtain ⟨proper, registered⟩ := lineage.registered
    have apart : name ∉ line.map Prod.fst := by
      intro member
      have taken := registered name member
      rw [vacant] at taken
      cases taken
    refine ⟨rfl, (name, spec) :: line, .derived here given under (lineage.enter vacant), ?_, ?_⟩
    · exact List.nodup_cons.mpr ⟨apart, distinct⟩
    · exact spec.inherits_below name inherits proper

private theorem enter_orderly (orderly : roll.Orderly)
    (admits : roll.realm.classes.Admits call entry) : (roll.enter call entry).Orderly := by
  have vacant := admits.vacant
  have unlisted : call.1 ∉ roll.accepted.map Prod.fst := by
    intro member
    have taken := (orderly.listed call.1).mpr member
    rw [vacant] at taken
    cases taken
  refine ⟨List.nodup_cons.mpr ⟨unlisted, orderly.once⟩, fun name => ?_, fun {name old} found => ?_⟩
  · rw [enter, ClassRegistry.get?_add]
    by_cases same : name = call.1
    · simp [same]
    · simp [same, orderly.listed name]
  · by_cases same : name = call.1
    · subst same
      rw [enter, ClassRegistry.get?_add, if_pos rfl] at found
      cases found
      exact enter_describes orderly admits
    · rw [enter, ClassRegistry.get?_add, if_neg same] at found
      obtain ⟨named, line, lineage, distinct, inherits⟩ := orderly.described found
      exact ⟨named, line, lineage.enter vacant, distinct, inherits⟩

end Entered

theorem Orderly.register {roll : Roll} (orderly : roll.Orderly) (call : Registration) :
    (roll.register call).Orderly := by
  unfold Roll.register
  rcases roll.realm.registerClass_cases call with ⟨kind, -, refused⟩ | ⟨entry, admits, added⟩
  · rw [refused]
    exact orderly
  · rw [added]
    exact enter_orderly orderly admits

theorem Orderly.registerAll {roll : Roll} (orderly : roll.Orderly) (calls : List Registration) :
    (roll.registerAll calls).Orderly := by
  induction calls generalizing roll with
  | nil => exact orderly
  | cons call rest ih => exact ih (orderly.register call)

theorem orderly_empty (space : Space) (config : Config) : Orderly ⟨⟨space, {}, config⟩, []⟩ where
  once := List.nodup_nil
  listed name := by simp [ClassRegistry.get?, EmptyCollection.emptyCollection]
  described found := by cases found

end Roll

end ScriptEngine
