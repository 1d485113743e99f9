import ScriptEngine.Proofs.SoundSpaces

set_option autoImplicit false

namespace ScriptEngine

namespace Space

abbrev AllRelated (related : Value → Value → Prop) : List Member → List Member → Prop :=
  List.Forall₂ fun member other => member.1 = other.1 ∧ related member.2 other.2

/-- One step of a bisimulation. Numbers are equal as numbers. Two arrays are one and the same or
have related elements, two objects are one and the same or have the same keys with related values.
All else has the same tag and the same scalar or handle. -/
inductive Matches (space : Space) (related : Value → Value → Prop) : Value → Value → Prop where
  | number {first second : Value} (equal : numericEqual? first second = some true) :
      Matches space related first second
  | same {value : Value} (other : numericEqual? value value = none) :
      Matches space related value value
  | array {left right : Handle} {items others : Array Value} (held : space.array left = .ok items)
      (held' : space.array right = .ok others)
      (elements : List.Forall₂ related items.toList others.toList) :
      Matches space related (.array left) (.array right)
  | object {left right : Handle} {data others : ObjectData}
      (held : space.objectData left = .ok data) (held' : space.objectData right = .ok others)
      (properties : AllRelated related data.properties.entries others.properties.entries) :
      Matches space related (.object left) (.object right)

/-- The relation is handed on from containers to their members, and holds only between equal
scalars. -/
def IsBisimulation (space : Space) (related : Value → Value → Prop) : Prop :=
  ∀ first second, related first second → space.Matches related first second

/-- The greatest bisimulation. -/
def Bisimilar (space : Space) (first second : Value) : Prop :=
  ∃ related, space.IsBisimulation related ∧ related first second

def members (space : Space) : Value → Except Fault (List Member)
  | .array handle => return unnamed (← space.array handle)
  | .object handle => return (← space.objectData handle).properties.entries
  | _ => return []

inductive Alongside : Value → Value → Handle → Handle → Prop where
  | arrays (left right : Handle) : Alongside (.array left) (.array right) left right
  | objects (left right : Handle) : Alongside (.object left) (.object right) left right

theorem plain_or_alongside (first second : Value) :
    (¬ (first.type = .array ∧ second.type = .array) ∧
      ¬ (first.type = .object ∧ second.type = .object)) ∨
    ∃ left right, Alongside first second left right := by
  by_cases arrays : first.type = .array ∧ second.type = .array
  · obtain ⟨one, other⟩ := arrays
    cases first <;> cases one
    cases second <;> cases other
    exact Or.inr ⟨_, _, .arrays _ _⟩
  · by_cases objects : first.type = .object ∧ second.type = .object
    · obtain ⟨one, other⟩ := objects
      cases first <;> cases one
      cases second <;> cases other
      exact Or.inr ⟨_, _, .objects _ _⟩
    · exact Or.inl ⟨arrays, objects⟩

variable {space : Space} {related : Value → Value → Prop} {first second : Value}
  {left right : Handle} {entries others : List Member} {bound : Nat} {seen after : Compared}
  {verdict : Bool}

theorem members_array {handle : Handle} :
    space.members (.array handle) = .ok entries ↔
      ∃ items, space.array handle = .ok items ∧ entries = unnamed items := by
  cases held : space.array handle <;>
    simp [members, held, bind, Except.bind, pure, Except.pure, eq_comm]

theorem members_object {handle : Handle} :
    space.members (.object handle) = .ok entries ↔
      ∃ data, space.objectData handle = .ok data ∧ entries = data.properties.entries := by
  cases held : space.objectData handle <;>
    simp [members, held, bind, Except.bind, pure, Except.pure, eq_comm]

private theorem forall₂_unnamed {items others : Array Value} :
    AllRelated related (unnamed items) (unnamed others) ↔
      List.Forall₂ related items.toList others.toList := by
  simp [AllRelated, unnamed, List.forall₂_map_left_iff, List.forall₂_map_right_iff]

theorem Alongside.matches_iff (alongside : Alongside first second left right)
    (read : space.members first = .ok entries) (read' : space.members second = .ok others)
    (apart : left ≠ right) :
    space.Matches related first second ↔ AllRelated related entries others := by
  cases alongside with
  | arrays =>
    obtain ⟨items, held, rfl⟩ := members_array.mp read
    obtain ⟨items', held', rfl⟩ := members_array.mp read'
    rw [forall₂_unnamed]
    refine ⟨fun step => ?_, .array held held'⟩
    cases step with
    | number equal => cases equal
    | same => exact absurd rfl apart
    | array found found' elements =>
      cases held.symm.trans found
      cases held'.symm.trans found'
      exact elements
  | objects =>
    obtain ⟨data, held, rfl⟩ := members_object.mp read
    obtain ⟨data', held', rfl⟩ := members_object.mp read'
    refine ⟨fun step => ?_, .object held held'⟩
    cases step with
    | number equal => cases equal
    | same => exact absurd rfl apart
    | object found found' properties =>
      cases held.symm.trans found
      cases held'.symm.trans found'
      exact properties

/-- Containers are compared member by member, unless they are one and the same or their comparison
has begun already. -/
theorem Alongside.equalWithin_eq (alongside : Alongside first second left right) :
    space.equalWithin (bound + 1) seen first second =
      if left = right ∨ (left, right) ∈ seen then .ok (true, seen)
      else do
        let entries ← space.members first
        let others ← space.members second
        if entries.length = others.length then
          equalMembers (space.equalWithin bound) ((left, right) :: seen) (entries.zip others)
        else return (false, (left, right) :: seen) := by
  cases alongside with
  | arrays =>
    simp only [equalWithin, numericEqual?]
    split
    · rfl
    · cases held : space.array left <;> cases held' : space.array right <;>
        simp [members, held, held', unnamed, bind, Except.bind, pure, Except.pure]
  | objects =>
    simp only [equalWithin, numericEqual?]
    split
    · rfl
    · cases held : space.objectData left <;> cases held' : space.objectData right <;>
        simp only [members, held, held'] <;> rfl

/-- How a comparison goes that comes to an end. Containers are opened only if they differ and their
comparison has not begun before. -/
inductive Compares (space : Space) (bound : Nat) (seen : Compared) :
    Value → Value → Bool → Compared → Prop where
  | plain {first second : Value} (arrays : ¬ (first.type = .array ∧ second.type = .array))
      (objects : ¬ (first.type = .object ∧ second.type = .object)) :
      Compares space bound seen first second
        ((numericEqual? first second).getD (first.identical second)) seen
  | known {first second : Value} {left right : Handle}
      (alongside : Alongside first second left right) (hit : left = right ∨ (left, right) ∈ seen) :
      Compares space bound seen first second true seen
  | opened {first second : Value} {left right : Handle} {entries others : List Member}
      {verdict : Bool} {after : Compared} (alongside : Alongside first second left right)
      (fresh : ¬ (left = right ∨ (left, right) ∈ seen))
      (read : space.members first = .ok entries) (read' : space.members second = .ok others)
      (ended : if entries.length = others.length then
          equalMembers (space.equalWithin bound) ((left, right) :: seen) (entries.zip others) =
            .ok (verdict, after)
        else verdict = false ∧ after = (left, right) :: seen) :
      Compares space bound seen first second verdict after

theorem compares_of_equalWithin
    (ended : space.equalWithin (bound + 1) seen first second = .ok (verdict, after)) :
    space.Compares bound seen first second verdict after := by
  rcases plain_or_alongside first second with ⟨arrays, objects⟩ | ⟨left, right, alongside⟩
  · rw [equalWithin_plain arrays objects] at ended
    cases ended
    exact .plain arrays objects
  · rw [alongside.equalWithin_eq] at ended
    split at ended
    · rename_i hit
      cases ended
      exact .known alongside hit
    · rename_i fresh
      cases read : space.members first with
      | error fault =>
        rw [read] at ended
        cases ended
      | ok entries =>
        cases read' : space.members second with
        | error fault =>
          rw [read, read'] at ended
          cases ended
        | ok others =>
          refine .opened alongside fresh read read' ?_
          simp only [read, read', bind, Except.bind, pure, Except.pure] at ended
          split at ended
          · rename_i lengths
            rwa [if_pos lengths]
          · rename_i lengths
            rw [if_neg lengths]
            cases ended
            exact ⟨rfl, rfl⟩

theorem equal_of_numericEqual?_none {first second : Value}
    (other : numericEqual? first second = none) (same : first.identical second = true) :
    first = second := by
  cases first <;> cases second <;> simp_all [Value.identical, numericEqual?]

private theorem equalMembers_accepts
    {equal : Compared → Value → Value → Except Fault (Bool × Compared)}
    {pairs : List (Member × Member)}
    (each : ∀ pair ∈ pairs, pair.1.1 = pair.2.1 ∧ ∀ {seen verdict after},
      equal seen pair.1.2 pair.2.2 = .ok (verdict, after) → verdict = true)
    (ended : equalMembers equal seen pairs = .ok (verdict, after)) : verdict = true := by
  induction pairs generalizing seen with
  | nil =>
    cases ended
    rfl
  | cons pair rest ih =>
    obtain ⟨⟨name, one⟩, name', other⟩ := pair
    obtain ⟨names, here⟩ := each _ (List.mem_cons_self ..)
    -- Each comparison hands its pairs on, so the rest starts from other pairs than the whole.
    simp only [equalMembers, if_pos names] at ended
    cases compared : equal seen one other with
    | error fault =>
      rw [compared] at ended
      cases ended
    | ok answer =>
      obtain ⟨accepted, begun⟩ := answer
      cases here compared
      rw [compared] at ended
      exact ih (fun pair member => each pair (List.mem_cons_of_mem _ member)) ended

/-- A comparison of related values cannot end with a difference, whatever it takes to be equal. -/
theorem IsBisimulation.accepts (bisimulation : space.IsBisimulation related)
    (holds : related first second)
    (ended : space.equalWithin bound seen first second = .ok (verdict, after)) :
    verdict = true := by
  induction bound generalizing seen first second verdict after with
  | zero => cases ended
  | succ bound ih =>
    have step := bisimulation first second holds
    cases compares_of_equalWithin ended with
    | plain arrays objects =>
      cases step with
      | number equal => rw [equal, Option.getD_some]
      | same other =>
        rw [other, Option.getD_none]
        cases first <;> simp_all [Value.identical, numericEqual?]
      | array => exact absurd ⟨rfl, rfl⟩ arrays
      | object => exact absurd ⟨rfl, rfl⟩ objects
    | known => rfl
    | opened alongside fresh read read' ended =>
      have all := (alongside.matches_iff read read' fun same => fresh (Or.inl same)).mp step
      rw [if_pos all.length_eq] at ended
      refine equalMembers_accepts (fun pair member => ?_) ended
      have both := List.forall₂_zip all member
      exact ⟨both.1, ih both.2⟩

/-- Values that are equal if all comparisons that have begun come out equal. -/
inductive Assumed (seen : Compared) : Value → Value → Prop where
  | number {first second : Value} (equal : numericEqual? first second = some true) :
      Assumed seen first second
  | same {value : Value} (other : numericEqual? value value = none) : Assumed seen value value
  | begun {first second : Value} {left right : Handle}
      (alongside : Alongside first second left right) (member : (left, right) ∈ seen) :
      Assumed seen first second

/-- The pair belongs to two containers whose members are equal if all comparisons that have begun
come out equal. -/
def Expanded (space : Space) (seen : Compared) (pair : Handle × Handle) : Prop :=
  ∃ first second entries others, Alongside first second pair.1 pair.2 ∧
    space.members first = .ok entries ∧ space.members second = .ok others ∧
    AllRelated (Assumed seen) entries others

theorem Assumed.mono (grown : seen ⊆ after) (assumed : Assumed seen first second) :
    Assumed after first second := by
  cases assumed with
  | number equal => exact .number equal
  | same other => exact .same other
  | begun alongside member => exact .begun alongside (grown member)

theorem Expanded.mono (grown : seen ⊆ after) {pair : Handle × Handle}
    (expanded : space.Expanded seen pair) : space.Expanded after pair := by
  obtain ⟨first, second, entries, others, alongside, read, read', all⟩ := expanded
  exact ⟨first, second, entries, others, alongside, read, read',
    all.imp fun _ _ both => ⟨both.1, both.2.mono grown⟩⟩

/-- What a comparison without a difference adds to the pairs that have begun. -/
structure Accepted (space : Space) (seen after : Compared) : Prop where
  grown : seen ⊆ after
  expanded : ∀ pair ∈ after, pair ∈ seen ∨ space.Expanded after pair

theorem Accepted.refl : space.Accepted seen seen :=
  ⟨fun _ => id, fun _ member => Or.inl member⟩

theorem Accepted.trans {middle : Compared} (before : space.Accepted seen middle)
    (rest : space.Accepted middle after) : space.Accepted seen after where
  grown := List.Subset.trans before.grown rest.grown
  expanded pair member := by
    rcases rest.expanded pair member with earlier | expanded
    · exact (before.expanded pair earlier).imp_right (Expanded.mono rest.grown)
    · exact Or.inr expanded

private theorem accepted_of_equalMembers
    {equal : Compared → Value → Value → Except Fault (Bool × Compared)}
    (each : ∀ {seen after first second}, equal seen first second = .ok (true, after) →
      space.Accepted seen after ∧ Assumed after first second)
    {pairs : List (Member × Member)} (ended : equalMembers equal seen pairs = .ok (true, after)) :
    space.Accepted seen after ∧
      ∀ pair ∈ pairs, pair.1.1 = pair.2.1 ∧ Assumed after pair.1.2 pair.2.2 := by
  induction pairs generalizing seen with
  | nil =>
    cases ended
    exact ⟨.refl, nofun⟩
  | cons pair rest ih =>
    obtain ⟨⟨name, one⟩, name', other⟩ := pair
    simp only [equalMembers] at ended
    split at ended
    · rename_i names
      split at ended
      · rename_i middle compared
        obtain ⟨here, assumed⟩ := each compared
        obtain ⟨there, all⟩ := ih ended
        refine ⟨here.trans there, fun pair member => ?_⟩
        rcases List.mem_cons.mp member with rfl | member
        · exact ⟨names, assumed.mono there.grown⟩
        · exact all pair member
      · rename_i different
        exact absurd ended (different after)
    · cases ended

private theorem allRelated_of_zip (lengths : entries.length = others.length)
    (all : ∀ pair ∈ entries.zip others, pair.1.1 = pair.2.1 ∧ related pair.1.2 pair.2.2) :
    AllRelated related entries others :=
  List.forall₂_iff_zip.mpr ⟨lengths, fun member => all _ member⟩

/-- A comparison without a difference has opened the pairs that it added, and found their members
equal on the same terms. -/
theorem accepted_of_equalWithin
    (ended : space.equalWithin bound seen first second = .ok (verdict, after))
    (accepts : verdict = true) : space.Accepted seen after ∧ Assumed after first second := by
  induction bound generalizing seen first second verdict after with
  | zero => cases ended
  | succ bound ih =>
    cases compares_of_equalWithin ended with
    | plain =>
      refine ⟨.refl, ?_⟩
      cases numbers : numericEqual? first second with
      | some equal =>
        rw [numbers, Option.getD_some] at accepts
        exact .number (accepts ▸ numbers)
      | none =>
        rw [numbers, Option.getD_none] at accepts
        obtain rfl := equal_of_numericEqual?_none numbers accepts
        exact .same numbers
    | known alongside hit =>
      refine ⟨.refl, ?_⟩
      rcases hit with rfl | member
      · cases alongside <;> exact .same rfl
      · exact .begun alongside member
    | opened alongside fresh read read' ended =>
      rename_i left right entries others
      split at ended
      · rename_i lengths
        subst accepts
        obtain ⟨⟨grown, expanded⟩, all⟩ :=
          accepted_of_equalMembers (fun ended => ih ended rfl) ended
        -- The members were equal on the terms of all pairs, those begun later included.
        have here : space.Expanded after (left, right) :=
          ⟨first, second, entries, others, alongside, read, read', allRelated_of_zip lengths all⟩
        refine ⟨⟨fun pair member => grown (List.mem_cons_of_mem _ member), fun pair member => ?_⟩,
          .begun alongside (grown (List.mem_cons_self ..))⟩
        rcases expanded pair member with earlier | expanded
        · rcases List.mem_cons.mp earlier with rfl | earlier
          · exact Or.inr here
          · exact Or.inl earlier
        · exact Or.inr expanded
      · rw [ended.1] at accepts
        cases accepts

section Stored

variable (stored : ∀ {handle payload}, space.get? handle = some payload → space.FitsPayload payload)

include stored

theorem fits_of_members {value : Value} (read : space.members value = .ok entries) :
    ∀ member ∈ entries, space.Fits member.2 := by
  intro member listed
  cases value with
  | array =>
    obtain ⟨items, held, rfl⟩ := members_array.mp read
    obtain ⟨value, inside, rfl⟩ := List.mem_map.mp listed
    exact stored (array_eq_ok_iff.mp held) value (Array.mem_toList_iff.mp inside)
  | object =>
    obtain ⟨data, held, rfl⟩ := members_object.mp read
    exact (stored (objectData_eq_ok_iff.mp held)).1 _ _ (Table.get?_eq_some_iff.mpr listed)
  | undefined | null | bool | int | float | string | callable =>
    cases read
    cases listed

/-- Pairs that have all been opened, with members that are equal if the pairs are, make a
bisimulation. -/
theorem isBisimulation_of_expanded (expanded : ∀ pair ∈ seen, space.Expanded seen pair) :
    space.IsBisimulation fun first second =>
      (space.Fits first ∧ space.Fits second) ∧ Assumed seen first second := by
  rintro first second ⟨⟨fits, fits'⟩, assumed⟩
  cases assumed with
  | number equal => exact .number equal
  | same other => exact .same other
  | begun alongside member =>
    rename_i left right
    obtain ⟨one, other, entries, others, alongside', read, read', all⟩ := expanded _ member
    have same : one = first ∧ other = second := by
      cases alongside <;> cases alongside'
      · exact ⟨rfl, rfl⟩
      · obtain ⟨items, held⟩ := fits
        obtain ⟨data, found, -⟩ := members_object.mp read
        rw [objectData_eq_ok_iff, held] at found
        cases found
      · obtain ⟨data, held⟩ := fits
        obtain ⟨items, found, -⟩ := members_array.mp read
        rw [array_eq_ok_iff, held] at found
        cases found
      · exact ⟨rfl, rfl⟩
    obtain ⟨rfl, rfl⟩ := same
    by_cases apart : left = right
    · subst apart
      cases alongside <;> exact .same rfl
    · refine (alongside.matches_iff read read' apart).mpr
        (allRelated_of_zip all.length_eq fun pair member => ?_)
      have both := List.forall₂_zip all member
      have places := List.of_mem_zip member
      exact ⟨both.1, ⟨fits_of_members stored read _ places.1,
        fits_of_members stored read' _ places.2⟩, both.2⟩

end Stored

theorem members_of_fits {value : Value} (fits : space.Fits value) :
    ∃ entries, space.members value = .ok entries := by
  cases value with
  | array =>
    obtain ⟨items, held⟩ := fits
    exact ⟨_, members_array.mpr ⟨items, array_eq_ok_iff.mpr held, rfl⟩⟩
  | object =>
    obtain ⟨data, held⟩ := fits
    exact ⟨_, members_object.mpr ⟨data, objectData_eq_ok_iff.mpr held, rfl⟩⟩
  | undefined | null | bool | int | float | string | callable => exact ⟨[], rfl⟩

theorem Alongside.fits (alongside : Alongside first second left right)
    (read : space.members first = .ok entries) (read' : space.members second = .ok others) :
    space.Fits first ∧ space.Fits second := by
  cases alongside with
  | arrays =>
    obtain ⟨items, held, -⟩ := members_array.mp read
    obtain ⟨items', held', -⟩ := members_array.mp read'
    exact ⟨⟨items, array_eq_ok_iff.mp held⟩, items', array_eq_ok_iff.mp held'⟩
  | objects =>
    obtain ⟨data, held, -⟩ := members_object.mp read
    obtain ⟨data', held', -⟩ := members_object.mp read'
    exact ⟨⟨data, objectData_eq_ok_iff.mp held⟩, data', objectData_eq_ok_iff.mp held'⟩

theorem Alongside.live (alongside : Alongside first second left right)
    (fits : space.Fits first) (fits' : space.Fits second) :
    space.contains left = true ∧ space.contains right = true := by
  cases alongside with
  | arrays | objects =>
    obtain ⟨contents, held⟩ := fits
    obtain ⟨contents', held'⟩ := fits'
    simp [contains, held, held']

/-- Comparisons that have begun: none of them twice, and all between live containers. -/
structure Underway (space : Space) (seen : Compared) : Prop where
  distinct : seen.Nodup
  live : ∀ pair ∈ seen, space.contains pair.1 = true ∧ space.contains pair.2 = true

theorem Underway.cons (underway : space.Underway seen) (fresh : (left, right) ∉ seen)
    (live : space.contains left = true ∧ space.contains right = true) :
    space.Underway ((left, right) :: seen) where
  distinct := List.nodup_cons.mpr ⟨fresh, underway.distinct⟩
  live := List.forall_mem_cons.mpr ⟨live, underway.live⟩

/-- The comparison has a verdict, and none of those that had begun is forgotten. -/
def Concludes (space : Space) (seen : Compared) (result : Except Fault (Bool × Compared)) : Prop :=
  ∃ verdict after, result = .ok (verdict, after) ∧ space.Underway after ∧
    seen.length ≤ after.length

private theorem concludes_equalMembers
    {equal : Compared → Value → Value → Except Fault (Bool × Compared)} (least : Nat)
    (each : ∀ {seen first second}, space.Underway seen → least ≤ seen.length →
      space.Fits first → space.Fits second → space.Concludes seen (equal seen first second))
    {pairs : List (Member × Member)}
    (fits : ∀ pair ∈ pairs, space.Fits pair.1.2 ∧ space.Fits pair.2.2)
    (underway : space.Underway seen) (enough : least ≤ seen.length) :
    space.Concludes seen (equalMembers equal seen pairs) := by
  induction pairs generalizing seen with
  | nil => exact ⟨true, seen, rfl, underway, Nat.le_refl _⟩
  | cons pair rest ih =>
    obtain ⟨⟨name, one⟩, name', other⟩ := pair
    obtain ⟨here, there⟩ := List.forall_mem_cons.mp fits
    simp only [equalMembers]
    split
    · obtain ⟨verdict, middle, compared, begun, longer⟩ := each underway enough here.1 here.2
      rw [compared]
      cases verdict with
      | true =>
        obtain ⟨verdict, after, ended, begun', longer'⟩ := ih there begun (by omega)
        exact ⟨verdict, after, ended, begun', by omega⟩
      | false => exact ⟨false, middle, rfl, begun, longer⟩
    · exact ⟨false, seen, rfl, underway, Nat.le_refl _⟩

/-- Every container that is opened takes up one of the pairs of slots that are left. -/
theorem concludes_equalWithin
    (stored : ∀ {handle payload}, space.get? handle = some payload → space.FitsPayload payload)
    (underway : space.Underway seen)
    (room : space.slots.size * space.slots.size < bound + seen.length)
    (fits : space.Fits first) (fits' : space.Fits second) :
    space.Concludes seen (space.equalWithin bound seen first second) := by
  induction bound generalizing seen first second with
  | zero =>
    have short := length_pairs_le_size underway.distinct underway.live
    omega
  | succ bound ih =>
    rcases plain_or_alongside first second with ⟨arrays, objects⟩ | ⟨left, right, alongside⟩
    · rw [equalWithin_plain arrays objects]
      exact ⟨_, seen, rfl, underway, Nat.le_refl _⟩
    · rw [alongside.equalWithin_eq]
      split
      · exact ⟨true, seen, rfl, underway, Nat.le_refl _⟩
      · rename_i fresh
        obtain ⟨entries, read⟩ := members_of_fits fits
        obtain ⟨others, read'⟩ := members_of_fits fits'
        have begun := underway.cons (fun member => fresh (Or.inr member))
          (alongside.live fits fits')
        simp only [read, read', bind, Except.bind, pure, Except.pure]
        split
        · obtain ⟨verdict, after, ended, done, longer⟩ :=
            concludes_equalMembers (seen.length + 1)
              (fun underway longer => ih underway (by omega))
              (fun pair member => ⟨fits_of_members stored read _ (List.of_mem_zip member).1,
                fits_of_members stored read' _ (List.of_mem_zip member).2⟩)
              begun (Nat.le_refl _)
          exact ⟨verdict, after, ended, done, by simp at longer; omega⟩
        · exact ⟨false, _, rfl, begun, by simp⟩

theorem bisimilar_of_matches (step : ∀ related, space.Matches related first second) :
    space.Bisimilar first second := by
  refine ⟨fun one other => one = first ∧ other = second, ?_, rfl, rfl⟩
  rintro one other ⟨rfl, rfl⟩
  exact step _

theorem bisimilar_of_equalWithin
    (stored : ∀ {handle payload}, space.get? handle = some payload → space.FitsPayload payload)
    (ended : space.equalWithin (bound + 1) [] first second = .ok (verdict, after))
    (accepts : verdict = true) : space.Bisimilar first second := by
  obtain ⟨accepted, assumed⟩ := accepted_of_equalWithin ended accepts
  have expanded : ∀ pair ∈ after, space.Expanded after pair := fun pair member =>
    (accepted.expanded pair member).resolve_left List.not_mem_nil
  cases assumed with
  | number equal => exact bisimilar_of_matches fun _ => .number equal
  | same other => exact bisimilar_of_matches fun _ => .same other
  | begun alongside member =>
    cases compares_of_equalWithin ended with
    | plain arrays objects =>
      cases alongside
      · exact absurd ⟨rfl, rfl⟩ arrays
      · exact absurd ⟨rfl, rfl⟩ objects
    | known => cases member
    | opened alongside' _ read read' =>
      exact ⟨_, isBisimulation_of_expanded stored expanded, alongside'.fits read read',
        .begun alongside member⟩

/-- However many cycles there are, the comparison of two values that are live comes to an end. -/
theorem exists_verdict
    (stored : ∀ {handle payload}, space.get? handle = some payload → space.FitsPayload payload)
    (fits : space.Fits first) (fits' : space.Fits second) :
    ∃ verdict, space.equal first second = .ok verdict := by
  have concludes : space.Concludes []
      (space.equalWithin (space.slots.size * space.slots.size + 1) [] first second) :=
    concludes_equalWithin stored ⟨.nil, nofun⟩ (by simp) fits fits'
  obtain ⟨verdict, after, ended, -⟩ := concludes
  exact ⟨verdict, by simp [equal, ended, bind, Except.bind, pure, Except.pure]⟩

/-- In a space where every stored handle is live and of the right kind, however many cycles there
are, the comparison of two such values comes to an end. Whenever a comparison has a verdict, it
accepts the values iff they are bisimilar. -/
theorem equal_decides_bisimilarity
    (stored : ∀ {handle payload}, space.get? handle = some payload → space.FitsPayload payload)
    (first second : Value) :
    (space.Fits first → space.Fits second → ∃ verdict, space.equal first second = .ok verdict) ∧
    ∀ verdict, space.equal first second = .ok verdict →
      (verdict = true ↔ space.Bisimilar first second) := by
  refine ⟨exists_verdict stored, fun verdict answered => ?_⟩
  unfold equal at answered
  cases ended : space.equalWithin (space.slots.size * space.slots.size + 1) [] first second with
  | error fault =>
    rw [ended] at answered
    cases answered
  | ok answer =>
    obtain ⟨same, after⟩ := answer
    rw [ended] at answered
    obtain rfl : same = verdict := Except.ok.inj answered
    refine ⟨bisimilar_of_equalWithin stored ended, ?_⟩
    rintro ⟨related, bisimulation, holds⟩
    exact bisimulation.accepts holds ended

/-- Arrays that begin with a number and end with themselves or one another: one alone, two in turn,
and one with another number. -/
private def knots : Space where
  slots := #[⟨0, some (.array #[.int 1, .array ⟨0, 0⟩]), false⟩,
    ⟨0, some (.array #[.int 1, .array ⟨2, 0⟩]), false⟩,
    ⟨0, some (.array #[.int 1, .array ⟨1, 0⟩]), false⟩,
    ⟨0, some (.array #[.int 2, .array ⟨3, 0⟩]), false⟩]
  live := 4

private theorem knots_stored {handle : Handle} {payload : Payload}
    (held : knots.get? handle = some payload) : knots.FitsPayload payload := by
  have tied : ∀ (number : Int64) (next : Handle), (∃ items, knots.get? next = some (.array items)) →
      knots.FitsPayload (.array #[.int number, .array next]) := by
    intro number next there value member
    simp only [List.mem_toArray, List.mem_cons, List.not_mem_nil, or_false] at member
    rcases member with rfl | rfl
    · trivial
    · exact there
  obtain ⟨index, generation⟩ := handle
  obtain ⟨slot, found, -, full⟩ := get?_eq_some_iff.mp held
  match index, found with
  | 0, found | 1, found | 2, found | 3, found =>
    cases found
    obtain rfl := Option.some.inj full
    exact tied _ _ ⟨_, rfl⟩

/-- A cycle of one array and a cycle of two unfold alike. Another number makes the difference. The
comparison comes to an end although no array does. -/
theorem equality_of_knots :
    (∃ verdict, knots.equal (.array ⟨0, 0⟩) (.array ⟨1, 0⟩) = .ok verdict) ∧
    knots.Bisimilar (.array ⟨0, 0⟩) (.array ⟨1, 0⟩) ∧
    ¬ knots.Bisimilar (.array ⟨0, 0⟩) (.array ⟨3, 0⟩) := by
  obtain ⟨ends, alike⟩ := equal_decides_bisimilarity knots_stored (.array ⟨0, 0⟩) (.array ⟨1, 0⟩)
  have unlike :=
    (equal_decides_bisimilarity knots_stored (.array ⟨0, 0⟩) (.array ⟨3, 0⟩)).2 false rfl
  exact ⟨ends ⟨_, rfl⟩ ⟨_, rfl⟩, (alike true rfl).mp rfl,
    fun bisimilar => nomatch unlike.mpr bisimilar⟩

end Space

end ScriptEngine
