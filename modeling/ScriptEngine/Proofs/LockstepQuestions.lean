import ScriptEngine.Proofs.RenamedSpaces
import ScriptEngine.Proofs.Unfoldings
import ScriptEngine.Space.Callable
import ScriptEngine.Space.Object

set_option autoImplicit false

namespace ScriptEngine

namespace Twins

variable {terms : Terms} {pairing : Pairing} {left right : Space}

theorem array_ok (twins : Twins terms pairing left right) {source target : Handle}
    (paired : pairing .array source target) : ∃ items others, left.array source = .ok items ∧
      right.array target = .ok others ∧ Value.AllAlike pairing items.toList others.toList := by
  obtain ⟨items, others, held, held', alike⟩ := twins.get_array paired
  exact ⟨items, others, by simp [Space.array, Space.get, held],
    by simp [Space.array, Space.get, held'], alike⟩

theorem objectData_ok (twins : Twins terms pairing left right) {source target : Handle}
    (paired : pairing .object source target) : ∃ data others, left.objectData source = .ok data ∧
      right.objectData target = .ok others ∧ data.Alike pairing others := by
  obtain ⟨data, others, held, held', alike⟩ := twins.get_object paired
  exact ⟨data, others, by simp [Space.objectData, Space.get, held],
    by simp [Space.objectData, Space.get, held'], alike⟩

theorem context_ok (twins : Twins terms pairing left right) {source target : ContextRef}
    (paired : source.Alike pairing target) : ∃ data others, left.context source = .ok data ∧
      right.context target = .ok others ∧ data.Alike pairing others := by
  obtain ⟨data, others, held, held', alike⟩ := twins.get_context paired
  exact ⟨data, others, Space.context_eq_ok_iff.mpr held, Space.context_eq_ok_iff.mpr held',
    alike⟩

end Twins

theorem Context.Alike.parent? {pairing : Pairing} {left right : Context}
    (alike : left.Alike pairing right) :
    Option.Rel (ContextRef.Alike pairing) left.parent? right.parent? := by
  have kinds := alike.kind
  unfold Context.parent?
  generalize left.kind = kind at kinds
  generalize right.kind = kind' at kinds
  cases kinds with
  | global => exact .none
  | child parents => exact .some parents

namespace Twins

variable {terms : Terms} {pairing : Pairing} {left right : Space}

private theorem ownerWithin (twins : Twins terms pairing left right) (name : String)
    (bound : Nat) {source target : ContextRef} (paired : source.Alike pairing target) :
    (∃ owner other, left.ownerWithin name bound source = .ok owner ∧
      right.ownerWithin name bound target = .ok other ∧
      Option.Rel (ContextRef.Alike pairing) owner other) ∨
    (left.ownerWithin name bound source = .error .brokenChain ∧
      right.ownerWithin name bound target = .error .brokenChain) := by
  induction bound generalizing source target with
  | zero => exact Or.inr ⟨rfl, rfl⟩
  | succ bound ih =>
    obtain ⟨data, others, held, held', alike⟩ := twins.context_ok paired
    have bound? := alike.bindings.contains name
    have parents := alike.parent?
    simp only [Space.ownerWithin, held, held', bind, Except.bind]
    by_cases here : data.bindings.contains name = true
    · rw [if_pos here, if_pos (bound? ▸ here)]
      exact Or.inl ⟨some source, some target, rfl, rfl, .some paired⟩
    · rw [if_neg here, if_neg (bound? ▸ here)]
      generalize data.parent? = above at parents
      generalize others.parent? = above' at parents
      cases parents with
      | none => exact Or.inl ⟨none, none, rfl, rfl, .none⟩
      | some parents => exact ih parents

theorem owner (twins : Twins terms pairing left right) (name : String)
    {source target : ContextRef} (paired : source.Alike pairing target) :
    (∃ owner other, left.owner? source name = .ok owner ∧ right.owner? target name = .ok other ∧
      Option.Rel (ContextRef.Alike pairing) owner other) ∨
    (left.owner? source name = .error .brokenChain ∧
      right.owner? target name = .error .brokenChain ∧ ¬ terms.rooted) := by
  unfold Space.owner?
  by_cases holds : terms.rooted
  · -- The two bounds differ, so both searches are compared under a larger one.
    obtain ⟨⟨depth, chain⟩, depth', chain'⟩ := twins.rooted holds paired
    have below := chain.lt_size
    have below' := chain'.lt_size
    unfold Space.chainBound
    have bound := chain.ownerWithin_eq name (left.slots.size + 1)
      (left.slots.size + right.slots.size) (by omega) (by omega)
    have bound' := chain'.ownerWithin_eq name (right.slots.size + 1)
      (left.slots.size + right.slots.size) (by omega) (by omega)
    have unbroken := chain.ownerWithin_ne name (left.slots.size + 1) (by omega)
    have both := twins.ownerWithin name (left.slots.size + right.slots.size) paired
    rw [← bound, ← bound'] at both
    rcases both with found | ⟨broken, -⟩
    · exact Or.inl found
    · exact absurd broken unbroken
  · have holds' := terms.settled.resolve_right holds
    have sizes : right.chainBound = left.chainBound := by rw [(twins.same holds').equal]
    rw [sizes]
    rcases twins.ownerWithin name left.chainBound paired with found | ⟨broken, broken'⟩
    · exact Or.inl found
    · exact Or.inr ⟨broken, broken', holds⟩

/-- Below paired containers, the same are shown inside themselves. -/
private theorem mem_iff_of_paths (twins : Twins terms pairing left right)
    {path path' : List Handle}
    (paths : List.Forall₂ (fun source target => ∃ role, pairing role source target) path path')
    {role : Role} {source target : Handle} (paired : pairing role source target) :
    source ∈ path ↔ target ∈ path' := by
  induction paths with
  | nil => simp
  | cons head _ ih =>
    obtain ⟨role', paired'⟩ := head
    rw [List.mem_cons, List.mem_cons]
    exact or_congr (twins.eq_iff paired paired') ih

private theorem exists_forall₂ {α β γ : Type} {alike : α → β → Prop} {first : α → γ → Prop}
    {second : β → γ → Prop} {items : List α} {others : List β}
    (all : List.Forall₂ alike items others)
    (each : ∀ a b, alike a b → ∃ answer, first a answer ∧ second b answer) :
    ∃ answers, List.Forall₂ first items answers ∧ List.Forall₂ second others answers := by
  induction all with
  | nil => exact ⟨[], .nil, .nil⟩
  | cons head _ ih =>
    obtain ⟨answer, here, here'⟩ := each _ _ head
    obtain ⟨answers, rest, rest'⟩ := ih
    exact ⟨answer :: answers, .cons here rest, .cons here' rest'⟩

theorem callableText (twins : Twins terms pairing left right) {source target : Handle}
    (paired : pairing .callable source target) : ∃ text, left.callableText source = .ok text ∧
      right.callableText target = .ok text := by
  unfold Space.callableText Space.get
  rcases twins.get_callable paired with
    ⟨closure, other, held, held', alike⟩ | ⟨callee, other, held, held', alike⟩
  · rw [held, held']
    refine ⟨_, rfl, ?_⟩
    simp [bind, Except.bind, pure, Except.pure, Closure.displayName, alike.name]
  · rw [held, held']
    refine ⟨_, rfl, ?_⟩
    simp [bind, Except.bind, pure, Except.pure, alike.name]

/-- Values that are alike have one unfolding. The induction is on the number of containers that
are not on the path yet. -/
private theorem unfolds (twins : Twins terms pairing left right) (bound : Nat)
    {path path' : List Handle} (along : left.Path path)
    (paths : List.Forall₂ (fun source target => ∃ role, pairing role source target) path path')
    (room : left.slots.size < bound + path.length) {value other : Value}
    (alike : value.Alike pairing other) :
    ∃ tree, left.Unfolds path value tree ∧ right.Unfolds path' other tree := by
  induction bound generalizing path path' value other with
  | zero =>
    have short := along.length_le
    omega
  | succ bound ih =>
    cases alike with
    | @scalar value plain =>
      have bare : value.handle? = none := by cases value <;> first | rfl | cases plain
      exact ⟨_, .scalar bare, .scalar bare⟩
    | @array source target paired =>
      have inside := twins.mem_iff_of_paths paths paired
      by_cases here : source ∈ path
      · exact ⟨_, .innerArray here, .innerArray (inside.mp here)⟩
      · obtain ⟨items, others, held, held', elements⟩ := twins.get_array paired
        obtain ⟨trees, members, members'⟩ := exists_forall₂ elements fun a b both =>
          ih (along.cons here held) (.cons ⟨_, paired⟩ paths) (by simp; omega) both
        exact ⟨_, Space.unfolds_array here held members,
          Space.unfolds_array (mt inside.mpr here) held' members'⟩
    | @object source target paired =>
      have inside := twins.mem_iff_of_paths paths paired
      by_cases here : source ∈ path
      · exact ⟨_, .innerObject here, .innerObject (inside.mp here)⟩
      · obtain ⟨data, others, held, held', both⟩ := twins.get_object paired
        have each : ∀ entry entry' : String × Value,
            entry.1 = entry'.1 ∧ entry.2.Alike pairing entry'.2 → ∃ property,
              left.UnfoldsProperty (source :: path) entry property ∧
              right.UnfoldsProperty (target :: path') entry' property := by
          intro entry entry' both
          obtain ⟨tree, shown, shown'⟩ :=
            ih (along.cons here held) (.cons ⟨_, paired⟩ paths) (by simp; omega) both.2
          exact ⟨(entry.1, tree), ⟨rfl, shown⟩, both.1.symm, shown'⟩
        obtain ⟨trees, members, members'⟩ := exists_forall₂ both.properties.entries each
        exact ⟨_, Space.unfolds_object here held members,
          Space.unfolds_object (mt inside.mpr here) held' members'⟩
    | callable paired =>
      obtain ⟨text, described, described'⟩ := twins.callableText paired
      exact ⟨_, .callable described, .callable described'⟩

/-- Values that are alike have the same text. -/
theorem display (twins : Twins terms pairing left right) {value other : Value}
    (alike : value.Alike pairing other) :
    ∃ text, left.display value = .ok text ∧ right.display other = .ok text := by
  obtain ⟨tree, shown, shown'⟩ :=
    twins.unfolds (left.slots.size + 1) ⟨.nil, nofun⟩ .nil (by simp) alike
  exact ⟨_, Space.display_of_unfolds shown, Space.display_of_unfolds shown'⟩

end Twins

theorem Space.equalWithin_plain {space : Space} {bound : Nat} {seen : Compared}
    {first second : Value} (arrays : ¬ (first.type = .array ∧ second.type = .array))
    (objects : ¬ (first.type = .object ∧ second.type = .object)) :
    space.equalWithin (bound + 1) seen first second =
      .ok ((numericEqual? first second).getD (first.identical second), seen) := by
  simp only [Space.equalWithin]
  cases numericEqual? first second with
  | some verdict => rfl
  | none =>
    dsimp only
    split
    · exact absurd ⟨rfl, rfl⟩ arrays
    · exact absurd ⟨rfl, rfl⟩ objects
    · rfl

theorem Value.Alike.numericEqual? {pairing : Pairing} {first first' second second' : Value}
    (alike : first.Alike pairing first') (alike' : second.Alike pairing second') :
    numericEqual? first second = numericEqual? first' second' := by
  cases alike with
  | scalar =>
    cases alike' with
    | scalar => rfl
    | array | object | callable => cases first <;> rfl
  | array | object | callable => rfl

namespace Twins

variable {terms : Terms} {pairing : Pairing} {left right : Space}

theorem identical (twins : Twins terms pairing left right) {first first' second second' : Value}
    (alike : first.Alike pairing first') (alike' : second.Alike pairing second') :
    first.identical second = first'.identical second' := by
  cases alike with
  | scalar plain =>
    cases alike' with
    | scalar => rfl
    | array | object | callable => cases first <;> first | rfl | cases plain
  | array paired =>
    cases alike' with
    | scalar plain => cases second <;> first | rfl | cases plain
    | array paired' => simp [Value.identical, twins.eq_iff paired paired']
    | object | callable => rfl
  | object paired =>
    cases alike' with
    | scalar plain => cases second <;> first | rfl | cases plain
    | object paired' => simp [Value.identical, twins.eq_iff paired paired']
    | array | callable => rfl
  | callable paired =>
    cases alike' with
    | scalar plain => cases second <;> first | rfl | cases plain
    | callable paired' => simp [Value.identical, twins.eq_iff paired paired']
    | array | object => rfl

/-- The comparisons that two searches have begun: alike, and none of them twice. -/
private structure Begun (pairing : Pairing) (seen seen' : Compared) : Prop where
  paired : List.Forall₂ (fun pair pair' => (∃ role, pairing role pair.1 pair'.1) ∧
    ∃ role, pairing role pair.2 pair'.2) seen seen'
  distinct : seen.Nodup
  distinct' : seen'.Nodup

private theorem Begun.mem_iff {seen seen' : Compared} (begun : Begun pairing seen seen')
    (twins : Twins terms pairing left right) {role role' : Role}
    {source source' target target' : Handle} (paired : pairing role source target)
    (paired' : pairing role' source' target') :
    (source, source') ∈ seen ↔ (target, target') ∈ seen' := by
  have both := begun.paired
  clear begun
  induction both with
  | nil => simp
  | cons head _ ih =>
    obtain ⟨⟨role₁, first⟩, role₂, second⟩ := head
    rw [List.mem_cons, List.mem_cons, Prod.ext_iff, Prod.ext_iff]
    exact or_congr (and_congr (twins.eq_iff paired first) (twins.eq_iff paired' second)) ih

private theorem Begun.cons {seen seen' : Compared} (begun : Begun pairing seen seen')
    (twins : Twins terms pairing left right) {role role' : Role}
    {source source' target target' : Handle} (paired : pairing role source target)
    (paired' : pairing role' source' target') (fresh : (source, source') ∉ seen) :
    Begun pairing ((source, source') :: seen) ((target, target') :: seen') where
  paired := .cons ⟨⟨role, paired⟩, role', paired'⟩ begun.paired
  distinct := List.nodup_cons.mpr ⟨fresh, begun.distinct⟩
  distinct' :=
    List.nodup_cons.mpr ⟨mt (begun.mem_iff twins paired paired').mpr fresh, begun.distinct'⟩

private theorem Begun.length_le {seen seen' : Compared} (begun : Begun pairing seen seen')
    (twins : Twins terms pairing left right) :
    seen.length ≤ left.slots.size * left.slots.size ∧
      seen'.length ≤ right.slots.size * right.slots.size := by
  have live : ∀ pair ∈ seen, left.contains pair.1 = true ∧ left.contains pair.2 = true := by
    intro pair member
    obtain ⟨index, bound, rfl⟩ := List.mem_iff_getElem.mp member
    obtain ⟨⟨role, paired⟩, role', paired'⟩ :=
      begun.paired.get bound (begun.paired.length_eq ▸ bound)
    exact ⟨twins.live_left paired, twins.live_left paired'⟩
  have live' : ∀ pair ∈ seen', right.contains pair.1 = true ∧ right.contains pair.2 = true := by
    intro pair member
    obtain ⟨index, bound, rfl⟩ := List.mem_iff_getElem.mp member
    obtain ⟨⟨role, paired⟩, role', paired'⟩ :=
      begun.paired.get (begun.paired.length_eq ▸ bound) bound
    exact ⟨twins.live_right paired, twins.live_right paired'⟩
  exact ⟨Space.length_pairs_le_size begun.distinct live,
    Space.length_pairs_le_size begun.distinct' live'⟩

/-- Two comparisons with one verdict that have gone through the same pairs. -/
private def Agree (pairing : Pairing) (seen : Compared)
    (first second : Except Fault (Bool × Compared)) : Prop :=
  ∃ verdict after after', first = .ok (verdict, after) ∧ second = .ok (verdict, after') ∧
    Begun pairing after after' ∧ seen.length ≤ after.length

private theorem equalMembers {compare compare' : Compared → Value → Value →
      Except Fault (Bool × Compared)} {least : Nat}
    (agree : ∀ {seen seen' first first' second second'}, Begun pairing seen seen' →
      least ≤ seen.length → Value.Alike pairing first first' →
      Value.Alike pairing second second' →
      Agree pairing seen (compare seen first second) (compare' seen' first' second'))
    {members members' : List (Member × Member)}
    (alike : List.Forall₂ (fun pair pair' =>
      (pair.1.1 = pair'.1.1 ∧ pair.1.2.Alike pairing pair'.1.2) ∧
        pair.2.1 = pair'.2.1 ∧ pair.2.2.Alike pairing pair'.2.2) members members')
    {seen seen' : Compared} (begun : Begun pairing seen seen') (enough : least ≤ seen.length) :
    Agree pairing seen (Space.equalMembers compare seen members)
      (Space.equalMembers compare' seen' members') := by
  induction alike generalizing seen seen' with
  | nil => exact ⟨true, seen, seen', rfl, rfl, begun, Nat.le_refl _⟩
  | @cons pair pair' rest rest' head _ ih =>
    obtain ⟨⟨name, a⟩, name', b⟩ := pair
    obtain ⟨⟨name₁, a₁⟩, name₁', b₁⟩ := pair'
    obtain ⟨⟨same, values⟩, same', values'⟩ := head
    cases same
    cases same'
    simp only [Space.equalMembers]
    split
    · obtain ⟨verdict, after, after', here, here', begun', longer⟩ :=
        agree begun enough values values'
      rw [here, here']
      cases verdict with
      | true =>
        obtain ⟨verdict, final, final', there, there', begun'', longer'⟩ := ih begun' (by omega)
        exact ⟨verdict, final, final', there, there', begun'', by omega⟩
      | false => exact ⟨false, after, after', rfl, rfl, begun', longer⟩
    · exact ⟨false, seen, seen', rfl, rfl, begun, Nat.le_refl _⟩

private theorem forall₂_zip {α β α' β' : Type} {first : α → α' → Prop} {second : β → β' → Prop}
    {items : List α} {items' : List α'} {others : List β} {others' : List β'}
    (left : List.Forall₂ first items items') (right : List.Forall₂ second others others') :
    List.Forall₂ (fun pair pair' => first pair.1 pair'.1 ∧ second pair.2 pair'.2)
      (items.zip others) (items'.zip others') := by
  induction left generalizing others others' with
  | nil => exact .nil
  | cons head _ ih =>
    cases right with
    | nil => exact .nil
    | cons head' rest => exact .cons ⟨head, head'⟩ (ih rest)

private theorem unnamed {items others : Array Value}
    (alike : Value.AllAlike pairing items.toList others.toList) :
    List.Forall₂ (fun member member' => member.1 = member'.1 ∧
      member.2.Alike pairing member'.2) (Space.unnamed items) (Space.unnamed others) := by
  unfold Space.unnamed
  rw [List.forall₂_map_left_iff, List.forall₂_map_right_iff]
  exact List.Forall₂.imp (fun _ _ here => ⟨rfl, here⟩) alike

private theorem equalWithin_members (twins : Twins terms pairing left right)
    {bound bound' : Nat} {seen seen' : Compared} (begun : Begun pairing seen seen')
    {role : Role} {source source' target target' : Handle} (paired : pairing role source target)
    (paired' : pairing role source' target')
    {members members' : List Member} {others others' : List Member}
    (alike : List.Forall₂ (fun member member' => member.1 = member'.1 ∧
      member.2.Alike pairing member'.2) members members')
    (alike' : List.Forall₂ (fun member member' => member.1 = member'.1 ∧
      member.2.Alike pairing member'.2) others others')
    (agree : ∀ {seen₁ seen₁' first first' second second'}, Begun pairing seen₁ seen₁' →
      seen.length + 1 ≤ seen₁.length → Value.Alike pairing first first' →
      Value.Alike pairing second second' →
      Agree pairing seen₁ (left.equalWithin bound seen₁ first second)
        (right.equalWithin bound' seen₁' first' second')) :
    Agree pairing seen
      (if source = source' ∨ (source, source') ∈ seen then .ok (true, seen)
        else if members.length = others.length then
          Space.equalMembers (left.equalWithin bound) ((source, source') :: seen)
            (members.zip others)
        else .ok (false, (source, source') :: seen))
      (if target = target' ∨ (target, target') ∈ seen' then .ok (true, seen')
        else if members'.length = others'.length then
          Space.equalMembers (right.equalWithin bound') ((target, target') :: seen')
            (members'.zip others')
        else .ok (false, (target, target') :: seen')) := by
  have known : source = source' ∨ (source, source') ∈ seen ↔
      target = target' ∨ (target, target') ∈ seen' :=
    or_congr (twins.eq_iff paired paired') (begun.mem_iff twins paired paired')
  by_cases here : source = source' ∨ (source, source') ∈ seen
  · rw [if_pos here, if_pos (known.mp here)]
    exact ⟨true, seen, seen', rfl, rfl, begun, Nat.le_refl _⟩
  · rw [if_neg here, if_neg (mt known.mpr here), ← alike.length_eq, ← alike'.length_eq]
    have begun' := begun.cons twins paired paired' fun member => here (Or.inr member)
    split
    · obtain ⟨verdict, after, after', first, second, final, longer⟩ :=
        equalMembers agree (forall₂_zip alike alike') begun' (Nat.le_refl _)
      exact ⟨verdict, after, after', first, second, final, by simp at longer; omega⟩
    · exact ⟨false, _, _, rfl, rfl, begun', by simp⟩

/-- Values that are alike compare alike, whatever the bounds, as long as these leave room for
every comparison that has not begun yet. -/
private theorem equalWithin (twins : Twins terms pairing left right) (bound bound' : Nat)
    {seen seen' : Compared} (begun : Begun pairing seen seen')
    (room : left.slots.size * left.slots.size < bound + seen.length)
    (room' : right.slots.size * right.slots.size < bound' + seen.length)
    {first first' second second' : Value} (alike : first.Alike pairing first')
    (alike' : second.Alike pairing second') :
    Agree pairing seen (left.equalWithin bound seen first second)
      (right.equalWithin bound' seen' first' second') := by
  induction bound generalizing bound' seen seen' first first' second second' with
  | zero =>
    have short := (begun.length_le twins).1
    omega
  | succ bound ih =>
    have lengths : seen.length = seen'.length := begun.paired.length_eq
    obtain ⟨bound', rfl⟩ : ∃ less, bound' = less + 1 := by
      have short := (begun.length_le twins).2
      exact ⟨bound' - 1, by omega⟩
    by_cases arrays : first.type = .array ∧ second.type = .array
    · obtain ⟨source, target, rfl, rfl, paired⟩ := alike.of_array arrays.1
      obtain ⟨source', target', rfl, rfl, paired'⟩ := alike'.of_array arrays.2
      obtain ⟨items, others, held, held', elements⟩ := twins.array_ok paired
      obtain ⟨items', others', found, found', elements'⟩ := twins.array_ok paired'
      have step := twins.equalWithin_members begun paired paired' (unnamed elements)
        (unnamed elements') fun begun' longer => ih bound' begun' (by omega) (by omega)
      simpa [Space.equalWithin, numericEqual?, held, held', found, found', bind, Except.bind,
        pure, Except.pure, Space.unnamed] using step
    · by_cases objects : first.type = .object ∧ second.type = .object
      · obtain ⟨source, target, rfl, rfl, paired⟩ := alike.of_object objects.1
        obtain ⟨source', target', rfl, rfl, paired'⟩ := alike'.of_object objects.2
        obtain ⟨data, others, held, held', both⟩ := twins.objectData_ok paired
        obtain ⟨data', others', found, found', both'⟩ := twins.objectData_ok paired'
        have step := twins.equalWithin_members begun paired paired' both.properties.entries
          both'.properties.entries fun begun' longer => ih bound' begun' (by omega) (by omega)
        simp only [Space.equalWithin, numericEqual?, held, held', found, found', bind,
          Except.bind, pure, Except.pure]
        exact step
      · rw [Space.equalWithin_plain arrays objects,
          Space.equalWithin_plain (alike.type ▸ alike'.type ▸ arrays)
            (alike.type ▸ alike'.type ▸ objects),
          alike.numericEqual? alike', twins.identical alike alike']
        exact ⟨_, seen, seen', rfl, rfl, begun, Nat.le_refl _⟩

theorem equal (twins : Twins terms pairing left right) {first first' second second' : Value}
    (alike : first.Alike pairing first') (alike' : second.Alike pairing second') :
    ∃ verdict, left.equal first second = .ok verdict ∧
      right.equal first' second' = .ok verdict := by
  obtain ⟨verdict, after, after', here, here', -⟩ :=
    twins.equalWithin (left.slots.size * left.slots.size + 1)
      (right.slots.size * right.slots.size + 1) ⟨.nil, .nil, .nil⟩ (by simp) (by simp) alike
      alike'
  exact ⟨verdict, by simp [Space.equal, here, bind, Except.bind, pure, Except.pure],
    by simp [Space.equal, here', bind, Except.bind, pure, Except.pure]⟩

end Twins

end ScriptEngine
