import Mathlib.Data.List.Nodup
import Mathlib.Data.List.Range
import ScriptEngine.Error

set_option autoImplicit false

namespace ScriptEngine

inductive Event where
  /-- A task with this number is about to be brought. Others may still wait although the realm is
  free. -/
  | called (number : Nat) (late : Bool)
  /-- The call that brought the task has come back. -/
  | accumulated (number : Nat)
  | begun (number : Nat)
  /-- The task came to its end, with its error if it failed. -/
  | ended (number : Nat) (failure : Option ScriptError)
  /-- The errors of tasks were asked for. -/
  | took
  | sawQueue (queue : List Nat)
  | sawErrors (errors : List ScriptError)
  /-- A collection begins that is not put off. It is forced, or comes before a program. -/
  | collecting (forced : Bool) (queue : List Nat)
  /-- An outermost call is over, because it has come back or because it was cut off. -/
  | returned (cutOff : Bool)

namespace Event

@[simp] def called? : Event → Option Nat
  | .called number _ => some number
  | _ => none

@[simp] def late? : Event → Option Nat
  | .called number true => some number
  | _ => none

@[simp] def accumulated? : Event → Option Nat
  | .accumulated number => some number
  | _ => none

@[simp] def begun? : Event → Option Nat
  | .begun number => some number
  | _ => none

@[simp] def ended? : Event → Option Nat
  | .ended number _ => some number
  | _ => none

/-- The errors that are left for the next one who asks, given those that were left before. -/
@[simp] def nextErrors (event : Event) (errors : List ScriptError) : List ScriptError :=
  match event with
  | .ended _ (some error) => errors ++ [error]
  | .took => []
  | _ => errors

@[simp] def nextCutOff (event : Event) (cutOff : Bool) : Bool :=
  match event with
  | .returned cutOff => cutOff
  | _ => cutOff

end Event

namespace History

def called (history : List Event) : List Nat := history.filterMap Event.called?

/-- Numbers of the tasks that were brought to a free realm while others still waited. -/
def late (history : List Event) : List Nat := history.filterMap Event.late?

def accumulated (history : List Event) : List Nat := history.filterMap Event.accumulated?

/-- Numbers of tasks, in the order in which they began. -/
def begun (history : List Event) : List Nat := history.filterMap Event.begun?

def ended (history : List Event) : List Nat := history.filterMap Event.ended?

/-- The errors of the tasks that failed since the errors were last asked for. -/
def failures (history : List Event) : List ScriptError :=
  history.foldl (fun errors event => event.nextErrors errors) []

/-- Whether the last outermost call that is over was cut off. -/
def cutOff (history : List Event) : Bool :=
  history.foldl (fun cutOff event => event.nextCutOff cutOff) false

private theorem filterMap_concat {α β : Type} (choose : α → Option β) (items : List α) (item : α) :
    (items ++ [item]).filterMap choose = items.filterMap choose ++ (choose item).toList := by
  rw [List.filterMap_append]
  cases chosen : choose item <;> simp [chosen]

@[simp] theorem called_concat (history : List Event) (event : Event) :
    called (history ++ [event]) = called history ++ event.called?.toList :=
  filterMap_concat _ _ _

@[simp] theorem late_concat (history : List Event) (event : Event) :
    late (history ++ [event]) = late history ++ event.late?.toList :=
  filterMap_concat _ _ _

@[simp] theorem accumulated_concat (history : List Event) (event : Event) :
    accumulated (history ++ [event]) = accumulated history ++ event.accumulated?.toList :=
  filterMap_concat _ _ _

@[simp] theorem begun_concat (history : List Event) (event : Event) :
    begun (history ++ [event]) = begun history ++ event.begun?.toList :=
  filterMap_concat _ _ _

@[simp] theorem ended_concat (history : List Event) (event : Event) :
    ended (history ++ [event]) = ended history ++ event.ended?.toList :=
  filterMap_concat _ _ _

@[simp] theorem failures_concat (history : List Event) (event : Event) :
    failures (history ++ [event]) = event.nextErrors (failures history) := by
  simp [failures]

@[simp] theorem cutOff_concat (history : List Event) (event : Event) :
    cutOff (history ++ [event]) = event.nextCutOff (cutOff history) := by
  simp [cutOff]

/-- What happened once has happened ever since. -/
theorem late_since {earlier history : List Event} (since : earlier <+: history) :
    late earlier ⊆ late history :=
  (since.filterMap _).subset

theorem begun_since {earlier history : List Event} (since : earlier <+: history) :
    begun earlier ⊆ begun history :=
  (since.filterMap _).subset

end History

open History

/-- Where a task stands: it has been executed, is being executed or waits, each of it once. -/
inductive Standing (history : List Event) (queue : List Nat) (number : Nat) : Prop where
  | executed (began : (begun history).count number = 1)
      (finished : (ended history).count number = 1) (gone : number ∉ queue)
  | executing (began : (begun history).count number = 1) (going : number ∉ ended history)
      (last : (begun history).getLast? = some number) (gone : number ∉ queue)
  | waiting (fresh : number ∉ begun history) (still : number ∉ ended history)
      (queued : queue.count number = 1)

/-- Every task that was brought stands somewhere. Only a late task whose call has not come back may
be in nobody's hands but the call's. -/
def Accounted (history : List Event) (queue : List Nat) : Prop :=
  ∀ number ∈ called history, Standing history queue number ∨
    number ∈ late history ∧ number ∉ accumulated history ∧ number ∉ begun history ∧ number ∉ queue

/-- Whether an event is in order after what happened before, if there is `fuel` to look at the queue
at all. A collection is in order if nothing waits; only one that comes before a program may find
what a call that was cut off has left. -/
def Justified (fuel : Nat) (history : List Event) : Event → Prop
  | .called number _ => number ∉ begun history
  | .sawQueue queue => fuel ≠ 0 → Accounted history queue
  | .sawErrors errors => errors = failures history
  | .collecting forced queue => forced = true ∨ cutOff history = false →
    queue = [] ∧ ∀ number ∈ accumulated history, (ended history).count number = 1
  | _ => True

/-- How the records hang together. Some tasks are in hand, neither begun nor queued, and one may be
going on; all that happened since `base` is on top of it. With some fuel only late tasks are ever in
hand, and no others get lost. -/
structure Ledger (fuel : Nat) (base : List Event) (hand : List Nat) (current : Option Nat)
    (issued : Nat) (history : List Event) (queue : List Nat) (errors : List ScriptError) :
    Prop where
  since : base <+: history
  numbered : called history = List.range issued
  distinct : (hand ++ (begun history ++ queue)).Nodup
  known : ∀ number ∈ hand ++ (begun history ++ queue), number < issued
  progress : begun history = ended history ++ current.toList
  settled : ∀ number ∈ accumulated history, number ∈ begun history ++ queue
  failed : errors = failures history
  justified : ∀ earlier event, earlier ++ [event] <+: history → Justified fuel earlier event
  order : (begun history ++ queue).Pairwise fun first second =>
    first < second ∨ second ∈ late history
  kept : fuel ≠ 0 → ∀ number < issued, number ∉ late history → number ∈ begun history ++ queue

namespace Ledger

variable {fuel : Nat} {base history : List Event} {hand queue : List Nat} {current : Option Nat}
  {issued number : Nat} {errors : List ScriptError}

theorem empty (fuel : Nat) : Ledger fuel [] [] none 0 [] [] [] where
  since := List.prefix_refl _
  numbered := rfl
  distinct := List.nodup_nil
  known := nofun
  progress := rfl
  settled := nofun
  failed := rfl
  justified earlier event early := by
    have length := early.length_le
    simp at length
  order := List.Pairwise.nil
  kept _ _ low := absurd low (Nat.not_lt_zero _)

section Readings

variable (ledger : Ledger fuel base hand current issued history queue errors)
include ledger

theorem rebase {other : List Event} (since : other <+: history) :
    Ledger fuel other hand current issued history queue errors :=
  { ledger with since }

private theorem fresh : issued ∉ hand ++ (begun history ++ queue) :=
  fun found => absurd (ledger.known issued found) (Nat.lt_irrefl _)

private theorem standing {number : Nat} (here : number ∈ begun history ++ queue) :
    Standing history queue number := by
  have distinct := (List.nodup_append.mp ledger.distinct).2.1
  obtain ⟨begunOnce, queuedOnce, apart⟩ := List.nodup_append.mp distinct
  have progress := ledger.progress
  rcases List.mem_append.mp here with began | waits
  · have gone : number ∉ queue := fun waits => apart number began number waits rfl
    have once : (begun history).count number = 1 := List.count_eq_one_of_mem begunOnce began
    by_cases finished : number ∈ ended history
    · rw [progress] at begunOnce
      have endedOnce := (List.nodup_append.mp begunOnce).1
      exact .executed once (List.count_eq_one_of_mem endedOnce finished) gone
    · rw [progress] at began
      rcases List.mem_append.mp began with ended | now
      · exact absurd ended finished
      · refine .executing once finished ?_ gone
        rw [progress, Option.mem_toList.mp now]
        simp
  · have fresh : number ∉ begun history := fun began => apart number began number waits rfl
    have still : number ∉ ended history := by
      intro finished
      rw [progress] at fresh
      exact fresh (List.mem_append_left _ finished)
    exact .waiting fresh still (List.count_eq_one_of_mem queuedOnce waits)

theorem accounted (fuelled : fuel ≠ 0) : Accounted history queue := by
  intro number brought
  by_cases here : number ∈ begun history ++ queue
  · exact Or.inl (ledger.standing here)
  · have low : number < issued := by
      rw [ledger.numbered] at brought
      exact List.mem_range.mp brought
    refine Or.inr ⟨?_, fun returned => here (ledger.settled number returned),
      fun began => here (List.mem_append_left _ began),
      fun waits => here (List.mem_append_right _ waits)⟩
    by_contra timely
    exact here (ledger.kept fuelled number low timely)

end Readings

/-- Once nothing waits and nothing is going on, every task that was brought has been executed. -/
theorem count_ended (ledger : Ledger fuel base hand none issued history [] errors) :
    ∀ number ∈ accumulated history, (ended history).count number = 1 := by
  intro number returned
  have began := ledger.settled number returned
  have once := (List.nodup_append.mp ledger.distinct).2.1
  rw [List.append_nil] at began once
  rw [ledger.progress, Option.toList_none, List.append_nil] at began once
  exact List.count_eq_one_of_mem once began

/-- A task that was not late begins before every task that was brought after it. -/
theorem sublist_begun (ledger : Ledger fuel base hand current issued history queue errors)
    (fuelled : fuel ≠ 0) {first second : Nat} (calls : [first, second].Sublist (called history))
    (began : second ∈ begun history) (timely : first ∉ late history) :
    [first, second].Sublist (begun history) := by
  have below : first < second := by
    rw [ledger.numbered] at calls
    have sorted := List.pairwise_lt_range.sublist calls
    exact (List.pairwise_cons.mp sorted).1 second (List.mem_singleton.mpr rfl)
  have low : first < issued :=
    below.trans (ledger.known second (List.mem_append_right _ (List.mem_append_left _ began)))
  have here := ledger.kept fuelled first low timely
  have order := ledger.order
  obtain ⟨before, after, split⟩ := List.append_of_mem began
  rw [split, List.append_assoc] at order here
  -- Whatever stands behind the second task was brought after it, or late.
  have behind := (List.pairwise_cons.mp (List.pairwise_append.mp order).2.1).1
  rcases List.mem_append.mp here with ahead | rest
  · rw [split]
    have last : [second].Sublist (second :: after) :=
      List.singleton_sublist.mpr List.mem_cons_self
    exact (List.singleton_sublist.mpr ahead).append last
  · rcases List.mem_cons.mp rest with rfl | later
    · exact absurd below (Nat.lt_irrefl _)
    · rcases behind first later with above | tardy
      · exact absurd above (Nat.lt_asymm below)
      · exact absurd tardy timely

/-- A task that has begun begins before every task that is brought from then on. -/
theorem sublist_begun_of_begun
    (ledger : Ledger fuel base hand current issued history queue errors) {earlier : List Event}
    {first second : Nat} {tardy : Bool} (early : earlier ++ [Event.called second tardy] <+: history)
    (ahead : first ∈ begun earlier) (began : second ∈ begun history) :
    [first, second].Sublist (begun history) := by
  have fresh : second ∉ begun earlier := ledger.justified earlier (.called second tardy) early
  obtain ⟨rest, rfl⟩ := (List.prefix_append _ _).trans early
  have split : begun (earlier ++ rest) = begun earlier ++ begun rest := List.filterMap_append
  rw [split] at began ⊢
  have next : second ∈ begun rest := (List.mem_append.mp began).resolve_left fresh
  exact (List.singleton_sublist.mpr ahead).append (List.singleton_sublist.mpr next)

/-- If no task is late, those that have begun and those that wait are all that were brought, in the
order in which they were brought. -/
theorem called_eq (ledger : Ledger fuel base [] current issued history queue errors)
    (fuelled : fuel ≠ 0) (timely : late history = []) :
    called history = begun history ++ queue := by
  have order := ledger.order
  have kept := ledger.kept fuelled
  simp only [timely, List.not_mem_nil, or_false, not_false_eq_true, forall_const] at order kept
  have same : (List.range issued).Perm (begun history ++ queue) := by
    refine (List.perm_ext_iff_of_nodup List.nodup_range ledger.distinct).mpr fun number => ?_
    exact ⟨fun low => kept number (List.mem_range.mp low),
      fun here => List.mem_range.mpr (ledger.known number here)⟩
  rw [ledger.numbered]
  exact same.eq_of_pairwise (fun _ _ _ _ below above => absurd above (Nat.lt_asymm below))
    List.pairwise_lt_range order

theorem drop (ledger : Ledger fuel base (number :: hand) current issued history queue errors) :
    Ledger fuel base hand current issued history queue errors :=
  { ledger with
    distinct := (List.nodup_cons.mp ledger.distinct).2
    known := fun other found => ledger.known other (List.mem_cons_of_mem _ found) }

private theorem justified_concat {event : Event}
    (before : ∀ earlier event, earlier ++ [event] <+: history → Justified fuel earlier event)
    (now : Justified fuel history event) :
    ∀ earlier other, earlier ++ [other] <+: history ++ [event] → Justified fuel earlier other := by
  intro earlier other early
  rcases List.prefix_concat_iff.mp early with same | inside
  · obtain ⟨rfl, equal⟩ := List.append_inj' same rfl
    obtain rfl := List.singleton_inj.mp equal
    exact now
  · exact before earlier other inside

/-- Something happens with which no task is brought, begins or ends. A call that comes back has left
its task in the queue, or the task has begun. -/
theorem record (ledger : Ledger fuel base hand current issued history queue errors)
    {event : Event} (now : Justified fuel history event) (unbrought : event.called? = none)
    (unbegun : event.begun? = none) (unended : event.ended? = none)
    (settles : ∀ number, event.accumulated? = some number → number ∈ begun history ++ queue) :
    Ledger fuel base hand current issued (history ++ [event]) queue
      (event.nextErrors errors) := by
  obtain ⟨since, numbered, distinct, known, progress, settled, failed, justified, order, kept⟩ :=
    ledger
  have sameCalled : called (history ++ [event]) = called history := by
    rw [called_concat, unbrought, Option.toList_none, List.append_nil]
  have sameBegun : begun (history ++ [event]) = begun history := by
    rw [begun_concat, unbegun, Option.toList_none, List.append_nil]
  have sameEnded : ended (history ++ [event]) = ended history := by
    rw [ended_concat, unended, Option.toList_none, List.append_nil]
  have sameLate : late (history ++ [event]) = late history := by
    have timely : event.late? = none := by cases event <;> simp_all
    rw [late_concat, timely, Option.toList_none, List.append_nil]
  refine ⟨since.trans (List.prefix_append _ _), ?_, ?_, ?_, ?_, ?_, ?_,
    justified_concat justified now, ?_, ?_⟩
  · rwa [sameCalled]
  · rwa [sameBegun]
  · rwa [sameBegun]
  · rwa [sameBegun, sameEnded]
  · intro other returned
    rw [sameBegun]
    rw [accumulated_concat] at returned
    rcases List.mem_append.mp returned with before | now
    · exact settled other before
    · exact settles other (Option.mem_toList.mp now)
  · rw [failures_concat, failed]
  · rwa [sameBegun, sameLate]
  · rwa [sameBegun, sameLate]

/-- A number is given out. The task is in hand, which with some fuel happens to late tasks only. -/
theorem issue (ledger : Ledger fuel base hand current issued history queue errors) {tardy : Bool}
    (slow : fuel ≠ 0 → tardy = true) :
    Ledger fuel base (issued :: hand) current (issued + 1)
      (history ++ [Event.called issued tardy]) queue errors := by
  have fresh := ledger.fresh
  obtain ⟨since, numbered, distinct, known, progress, settled, failed, justified, order, kept⟩ :=
    ledger
  have grown : late history ⊆ late (history ++ [Event.called issued tardy]) :=
    late_since (List.prefix_append _ _)
  have unbegun : issued ∉ begun history := fun began =>
    fresh (List.mem_append_right _ (List.mem_append_left _ began))
  refine ⟨since.trans (List.prefix_append _ _), ?_, ?_, ?_, ?_, ?_, ?_,
    justified_concat justified unbegun, ?_, fun fuelled other low timely => ?_⟩
  · simpa [List.range_succ] using numbered
  · simpa using List.nodup_cons.mpr ⟨fresh, distinct⟩
  · intro other found
    have found : other = issued ∨ other ∈ hand ++ (begun history ++ queue) := by
      simpa using found
    rcases found with rfl | old
    · exact Nat.lt_succ_self _
    · exact Nat.lt_succ_of_lt (known other old)
  · simpa using progress
  · simpa using settled
  · simpa using failed
  · rw [begun_concat]
    simpa using order.imp fun ahead => ahead.imp_right fun tardy => grown tardy
  · rcases Nat.lt_succ_iff_lt_or_eq.mp low with old | rfl
    · simpa using kept fuelled other old fun tardy => timely (grown tardy)
    · exact absurd (by simp [slow fuelled]) timely

theorem bring (ledger : Ledger fuel base hand current issued history queue errors) :
    Ledger fuel base hand current (issued + 1)
      (history ++ [Event.called issued false]) (queue ++ [issued]) errors := by
  have fresh := ledger.fresh
  obtain ⟨since, numbered, distinct, known, progress, settled, failed, justified, order, kept⟩ :=
    ledger
  have unbegun : issued ∉ begun history := fun began =>
    fresh (List.mem_append_right _ (List.mem_append_left _ began))
  have moved : (hand ++ (begun history ++ (queue ++ [issued]))).Perm
      (issued :: (hand ++ (begun history ++ queue))) := by
    rw [← List.append_assoc _ queue, ← List.append_assoc]
    exact List.perm_append_singleton _ _
  refine ⟨since.trans (List.prefix_append _ _), ?_, ?_, ?_, ?_, ?_, ?_,
    justified_concat justified unbegun, ?_, fun fuelled other low timely => ?_⟩
  · simpa [List.range_succ] using numbered
  · simpa using moved.nodup_iff.mpr (List.nodup_cons.mpr ⟨fresh, distinct⟩)
  · intro other found
    rcases List.mem_cons.mp (moved.mem_iff.mp (by simpa using found)) with rfl | old
    · exact Nat.lt_succ_self _
    · exact Nat.lt_succ_of_lt (known other old)
  · simpa using progress
  · intro other returned
    have found := settled other (by simpa using returned)
    simpa [← List.append_assoc] using Or.inl (List.mem_append.mp found)
  · simpa using failed
  · have last : ∀ other ∈ begun history ++ queue, other < issued :=
      fun other found => known other (List.mem_append_right _ found)
    have longer := List.pairwise_append.mpr ⟨order, List.pairwise_singleton _ issued,
      fun other found next isNext => Or.inl (List.mem_singleton.mp isNext ▸ last other found)⟩
    simpa using longer
  · rcases Nat.lt_succ_iff_lt_or_eq.mp low with old | rfl
    · have found := kept fuelled other old (by simpa using timely)
      simpa [← List.append_assoc] using Or.inl (List.mem_append.mp found)
    · simp

theorem start (ledger : Ledger fuel base hand none issued history (number :: queue) errors) :
    Ledger fuel base hand (some number) issued (history ++ [Event.begun number]) queue errors := by
  obtain ⟨since, numbered, distinct, known, progress, settled, failed, justified, order, kept⟩ :=
    ledger
  refine ⟨since.trans (List.prefix_append _ _), ?_, ?_, ?_, ?_, ?_, ?_,
    justified_concat justified trivial, ?_, ?_⟩
  · simpa using numbered
  · simpa using distinct
  · simpa using known
  · simpa using progress
  · simpa using settled
  · simpa using failed
  · simpa using order
  · simpa using kept

theorem begin (ledger : Ledger fuel base (number :: hand) none issued history [] errors)
    (tardy : number ∈ late history) :
    Ledger fuel base hand (some number) issued (history ++ [Event.begun number]) [] errors := by
  obtain ⟨since, numbered, distinct, known, progress, settled, failed, justified, order, kept⟩ :=
    ledger
  rw [List.append_nil] at distinct known settled order kept
  have moved : (hand ++ (begun history ++ [number])).Perm (number :: hand ++ begun history) := by
    rw [← List.append_assoc, List.cons_append]
    exact List.perm_append_singleton _ _
  refine ⟨since.trans (List.prefix_append _ _), ?_, ?_, ?_, ?_, ?_, ?_,
    justified_concat justified trivial, ?_, ?_⟩
  · simpa using numbered
  · simpa using moved.nodup_iff.mpr distinct
  · intro other found
    exact known other (moved.mem_iff.mp (by simpa using found))
  · simpa using progress
  · intro other returned
    have began := settled other (by simpa using returned)
    simp [began]
  · simpa using failed
  · have longer := List.pairwise_append.mpr ⟨order, List.pairwise_singleton _ number,
      fun other _ next isNext => Or.inr (List.mem_singleton.mp isNext ▸ tardy)⟩
    simpa using longer
  · intro fuelled other low timely
    have began := kept fuelled other low (by simpa using timely)
    simp [began]

theorem finish (ledger : Ledger fuel base hand (some number) issued history queue errors)
    (failure : Option ScriptError) :
    Ledger fuel base hand none issued (history ++ [Event.ended number failure]) queue
      (errors ++ failure.toList) := by
  obtain ⟨since, numbered, distinct, known, progress, settled, failed, justified, order, kept⟩ :=
    ledger
  refine ⟨since.trans (List.prefix_append _ _), ?_, ?_, ?_, ?_, ?_, ?_,
    justified_concat justified trivial, ?_, ?_⟩
  · simpa using numbered
  · simpa using distinct
  · simpa using known
  · simpa using progress
  · simpa using settled
  · cases failure with
    | none => simpa using failed
    | some error => simp [failed]
  · simpa using order
  · simpa using kept

end Ledger

end ScriptEngine
