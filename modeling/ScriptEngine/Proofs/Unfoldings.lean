import Mathlib.Data.List.Forall2
import ScriptEngine.Proofs.Slots
import ScriptEngine.Space.Display

set_option autoImplicit false

namespace ScriptEngine

/-- A value with its contents. -/
inductive Unfolding where
  | scalar (value : Value)
  | callable (description : String)
  | cycle
  | array (items : List Unfolding)
  | object (properties : List (String × Unfolding))

/-- Members between brackets, or the empty brackets alone. -/
def bracketed (opening closing : String) (members : List String) : String :=
  if members.isEmpty then opening ++ closing
  else opening ++ " " ++ ", ".intercalate members ++ " " ++ closing

/-- Strings are quoted inside a container and bare outside. -/
def Unfolding.text (nested : Bool) : Unfolding → String
  | .scalar (.string content) => if nested then Quoted.text content else content
  | .scalar value => value.text
  | .callable description => description
  | .cycle => "<cycle>"
  | .array items => bracketed "[" "]" (items.map (text true))
  | .object properties => bracketed "\x7b" "\x7d" (properties.map fun property =>
      property.1 ++ ": " ++ text true property.2)
termination_by tree => sizeOf tree
decreasing_by
  · decreasing_tactic
  · rename_i member
    have smaller := List.sizeOf_lt_of_mem member
    obtain ⟨key, tree⟩ := property
    simp at smaller ⊢
    omega

namespace Space

/-- The tree is what the value unfolds into below the containers of `path`, the nearest first. -/
inductive Unfolds (space : Space) : List Handle → Value → Unfolding → Prop where
  | scalar {path : List Handle} {value : Value} (plain : value.handle? = none) :
      Unfolds space path value (.scalar value)
  | callable {path : List Handle} {handle : Handle} {description : String}
      (described : space.callableText handle = .ok description) :
      Unfolds space path (.callable handle) (.callable description)
  | innerArray {path : List Handle} {handle : Handle} (inside : handle ∈ path) :
      Unfolds space path (.array handle) .cycle
  | innerObject {path : List Handle} {handle : Handle} (inside : handle ∈ path) :
      Unfolds space path (.object handle) .cycle
  | array {path : List Handle} {handle : Handle} {items : Array Value} {trees : List Unfolding}
      (outside : handle ∉ path) (held : space.get? handle = some (.array items))
      (length : items.size = trees.length)
      (each : ∀ pair ∈ items.toList.zip trees, Unfolds space (handle :: path) pair.1 pair.2) :
      Unfolds space path (.array handle) (.array trees)
  | object {path : List Handle} {handle : Handle} {data : ObjectData}
      {trees : List (String × Unfolding)}
      (outside : handle ∉ path) (held : space.get? handle = some (.object data))
      (length : data.properties.entries.length = trees.length)
      (keys : ∀ pair ∈ data.properties.entries.zip trees, pair.1.1 = pair.2.1)
      (each : ∀ pair ∈ data.properties.entries.zip trees,
        Unfolds space (handle :: path) pair.1.2 pair.2.2) :
      Unfolds space path (.object handle) (.object trees)

end Space

namespace Writing

variable {path : List Handle} {out : String}

@[simp] theorem put_apply (text : String) : put text ⟨out, path⟩ = (.ok (), ⟨out ++ text, path⟩) :=
  rfl

@[simp] theorem visits_apply (handle : Handle) :
    visits handle ⟨out, path⟩ = (.ok (decide (handle ∈ path)), ⟨out, path⟩) :=
  rfl

@[simp] theorem enter_apply (handle : Handle) :
    enter handle ⟨out, path⟩ = (.ok (), ⟨out, handle :: path⟩) :=
  rfl

@[simp] theorem leave_apply (handle : Handle) :
    leave ⟨out, handle :: path⟩ = (.ok (), ⟨out, path⟩) :=
  rfl

/-- Whatever has been written, the computation adds the text and leaves the containers open that
were open before. -/
def Appends (path : List Handle) (text : String) (write : WritingM Unit) : Prop :=
  ∀ out, write ⟨out, path⟩ = (.ok (), ⟨out ++ text, path⟩)

theorem appends_members {α : Type} {write : α → WritingM Unit} {items : List α}
    {texts : List String} (all : List.Forall₂ (fun item text => Appends path text (write item))
      items texts) (present : items ≠ []) (first : Bool) :
    Appends path ((if first then "" else ", ") ++ ", ".intercalate texts)
      (members write first items) := by
  induction all generalizing first with
  | nil => exact absurd rfl present
  | cons here all ih =>
    intro out
    simp only [members, Act.bind_apply, put_apply, here _]
    cases all with
    | nil =>
      rw [String.intercalate_singleton, String.append_assoc]
      rfl
    | cons =>
      rw [ih (by simp) false]
      simp [String.intercalate_cons_cons, String.append_assoc]

end Writing

namespace Space

variable {space : Space} {path : List Handle} {handle : Handle}

theorem unfolds_array {items : Array Value} {trees : List Unfolding} (outside : handle ∉ path)
    (held : space.get? handle = some (.array items))
    (members : List.Forall₂ (space.Unfolds (handle :: path)) items.toList trees) :
    space.Unfolds path (.array handle) (.array trees) := by
  obtain ⟨length, each⟩ := List.forall₂_iff_zip.mp members
  exact .array outside held length fun _ member => each member

/-- A property and its unfolding under the same key. -/
def UnfoldsProperty (space : Space) (path : List Handle) (entry : String × Value)
    (property : String × Unfolding) : Prop :=
  entry.1 = property.1 ∧ space.Unfolds path entry.2 property.2

theorem unfolds_object {data : ObjectData} {trees : List (String × Unfolding)}
    (outside : handle ∉ path) (held : space.get? handle = some (.object data))
    (members : List.Forall₂ (space.UnfoldsProperty (handle :: path)) data.properties.entries
      trees) :
    space.Unfolds path (.object handle) (.object trees) := by
  obtain ⟨length, each⟩ := List.forall₂_iff_zip.mp members
  exact .object outside held length (fun _ member => (each member).1)
    fun _ member => (each member).2

private theorem eq_of_unique {α β : Type} {relation : α → β → Prop} {items : List α}
    {trees others : List β}
    (unique : List.Forall₂ (fun item tree => ∀ other, relation item other → tree = other)
      items trees) (related : List.Forall₂ relation items others) : trees = others := by
  induction unique generalizing others with
  | nil =>
    cases related
    rfl
  | cons here _ ih =>
    cases related with
    | cons here' rest => rw [here _ here', ih rest]

/-- A value has one unfolding. -/
theorem Unfolds.unique {value : Value} {tree other : Unfolding}
    (first : space.Unfolds path value tree) (second : space.Unfolds path value other) :
    tree = other := by
  -- A container is cut short on the path and opened off it, so never both.
  induction first generalizing other with
  | scalar plain =>
    cases second with
    | scalar => rfl
    | callable | innerArray | innerObject | array | object => cases plain
  | callable described =>
    cases second with
    | scalar plain => cases plain
    | callable described' => rw [described, Except.ok.injEq] at described'; rw [described']
  | innerArray inside =>
    cases second with
    | scalar plain => cases plain
    | innerArray => rfl
    | array outside => exact absurd inside outside
  | innerObject inside =>
    cases second with
    | scalar plain => cases plain
    | innerObject => rfl
    | object outside => exact absurd inside outside
  | @array path handle items trees outside held length each ih =>
    cases second with
    | scalar plain => cases plain
    | innerArray inside => exact absurd inside outside
    | array _ held' length' each' =>
      obtain rfl : items = _ := Payload.array.inj (Option.some.inj (held.symm.trans held'))
      have members : List.Forall₂ (space.Unfolds (handle :: path)) items.toList _ :=
        List.forall₂_iff_zip.mpr ⟨length', fun member => each' _ member⟩
      rw [eq_of_unique (List.forall₂_iff_zip.mpr ⟨length, fun member _ => ih _ member⟩) members]
  | @object path handle data trees outside held length keys each ih =>
    cases second with
    | scalar plain => cases plain
    | innerObject inside => exact absurd inside outside
    | object _ held' length' keys' each' =>
      obtain rfl : data = _ := Payload.object.inj (Option.some.inj (held.symm.trans held'))
      have members : List.Forall₂ (space.UnfoldsProperty (handle :: path))
          data.properties.entries _ :=
        List.forall₂_iff_zip.mpr ⟨length', fun member => ⟨keys' _ member, each' _ member⟩⟩
      rw [eq_of_unique (List.forall₂_iff_zip.mpr ⟨length, fun member _ both =>
        Prod.ext ((keys _ member).symm.trans both.1) (ih _ member both.2)⟩) members]

theorem appends_bracketed {α : Type} {write : α → WritingM Unit} {items : List α}
    {texts : List String} (opening closing : String)
    (all : List.Forall₂ (fun item text => Writing.Appends (handle :: path) text (write item))
      items texts) :
    Writing.Appends path (bracketed opening closing texts)
      (if items.isEmpty then Writing.put (opening ++ closing)
      else do
        Writing.enter handle
        Writing.put (opening ++ " ")
        Writing.members write true items
        Writing.put (" " ++ closing)
        Writing.leave) := by
  intro out
  cases all with
  | nil => rfl
  | cons here all =>
    have inside := Writing.appends_members (.cons here all) (by simp) true
    simp [Act.bind_apply, inside _, bracketed, String.append_assoc]

/-- Containers inside one another: all of them are live, and none is inside itself. -/
structure Path (space : Space) (path : List Handle) : Prop where
  distinct : path.Nodup
  live : ∀ handle ∈ path, space.contains handle = true

theorem Path.cons (along : space.Path path) {payload : Payload} (outside : handle ∉ path)
    (held : space.get? handle = some payload) : space.Path (handle :: path) where
  distinct := List.nodup_cons.mpr ⟨outside, along.distinct⟩
  live other member := by
    rcases List.mem_cons.mp member with rfl | member
    · simp [contains, held]
    · exact along.live other member

theorem Path.length_le (along : space.Path path) : path.length ≤ space.slots.size :=
  length_le_size along.distinct along.live

/-- A bound that leaves room for every container that is not open yet suffices. -/
theorem appends_write (bound : Nat) (along : space.Path path)
    (room : space.slots.size < bound + path.length) {value : Value} {tree : Unfolding}
    (unfolds : space.Unfolds path value tree) (nested : Bool) :
    Writing.Appends path (tree.text nested) (space.write bound nested value) := by
  induction bound generalizing path value tree nested with
  | zero =>
    -- The path has no repetition, so it never fills more than the slots.
    have short := along.length_le
    omega
  | succ bound ih =>
    intro out
    cases unfolds with
    | scalar plain =>
      cases value with
      | array | object | callable => cases plain
      | undefined | null | bool | int | float | string => simp [write, Unfolding.text]
    | callable described => simp [write, Unfolding.text, Act.bind_apply, Act.ofExcept, described]
    | innerArray inside | innerObject inside =>
      simp [write, Unfolding.text, Act.bind_apply, inside]
    | @array _ handle items trees outside held length each =>
      have members : List.Forall₂ (fun item text => Writing.Appends (handle :: path) text
          (space.write bound true item)) items.toList (trees.map (Unfolding.text true)) := by
        rw [List.forall₂_map_right_iff, List.forall₂_iff_zip]
        exact ⟨length, fun member =>
          ih (along.cons outside held) (by simp; omega) (each _ member) true⟩
      have brackets := appends_bracketed "[" "]" members out
      simpa [write, Unfolding.text, Act.bind_apply, Act.ofExcept, outside,
        array_eq_ok_iff.mpr held] using brackets
    | @object _ handle data trees outside held length keys each =>
      have members : List.Forall₂ (fun entry text => Writing.Appends (handle :: path) text (do
            Writing.put (entry.1 ++ ": ")
            space.write bound true entry.2)) data.properties.entries
          (trees.map fun property => property.1 ++ ": " ++ property.2.text true) := by
        rw [List.forall₂_map_right_iff, List.forall₂_iff_zip]
        refine ⟨length, fun {entry property} member out => ?_⟩
        have shown := ih (along.cons outside held) (by simp; omega) (each _ member) true
        have key : entry.1 = property.1 := keys _ member
        simp [Act.bind_apply, shown _, key, String.append_assoc]
      have brackets := appends_bracketed "\x7b" "\x7d" members out
      simpa [write, Unfolding.text, Act.bind_apply, Act.ofExcept, outside,
        objectData_eq_ok_iff.mpr held] using brackets

theorem display_of_unfolds {value : Value} {tree : Unfolding}
    (unfolds : space.Unfolds [] value tree) : space.display value = .ok (tree.text false) := by
  have written := appends_write (space.slots.size + 1) ⟨.nil, nofun⟩ (by simp) unfolds false ""
  simp [display, written]

end Space

end ScriptEngine
