set_option autoImplicit false
set_option linter.unusedSectionVars false

namespace ScriptEngine

/-- A finite table, kept as entries in strictly increasing order of their keys. Equal look-ups
everywhere make two tables equal, so a table is its look-up function and nothing more. -/
structure Table (κ α : Type) [Ord κ] where
  entries : List (κ × α)
  increasing : entries.Pairwise fun a b => compare a.1 b.1 = .lt

namespace Table

variable {κ α : Type} [Ord κ]

private def find? (key : κ) : List (κ × α) → Option α
  | [] => none
  | (at', value) :: rest => if compare key at' = .eq then some value else find? key rest

private def put (key : κ) (value : α) : List (κ × α) → List (κ × α)
  | [] => [(key, value)]
  | entry :: rest =>
    match compare key entry.1 with
    | .lt => (key, value) :: entry :: rest
    | .eq => (key, value) :: rest
    | .gt => entry :: put key value rest

private theorem mem_put {key : κ} {value : α} {entry : κ × α} {entries : List (κ × α)}
    (member : entry ∈ put key value entries) : entry = (key, value) ∨ entry ∈ entries := by
  induction entries with
  | nil => simpa [put] using member
  | cons first rest ih =>
    simp only [put] at member
    split at member <;> simp only [List.mem_cons] at member ⊢
    · exact member
    · exact member.imp_right Or.inr
    · rcases member with rfl | member
      · exact Or.inr (Or.inl rfl)
      · exact (ih member).imp_right Or.inr

def empty : Table κ α := ⟨[], .nil⟩

instance : EmptyCollection (Table κ α) := ⟨empty⟩
instance : Inhabited (Table κ α) := ⟨empty⟩

def get? (table : Table κ α) (key : κ) : Option α := find? key table.entries

def contains (table : Table κ α) (key : κ) : Bool := (table.get? key).isSome

def keys (table : Table κ α) : List κ := table.entries.map (·.1)

def values (table : Table κ α) : List α := table.entries.map (·.2)

def size (table : Table κ α) : Nat := table.entries.length

def erase (table : Table κ α) (key : κ) : Table κ α :=
  ⟨table.entries.filter (compare key ·.1 != .eq), table.increasing.filter _⟩

variable [Std.TransOrd κ] [Std.LawfulEqOrd κ]

private theorem find?_of_lt {key : κ} {entries : List (κ × α)}
    (above : ∀ entry ∈ entries, compare key entry.1 = .lt) : find? key entries = none := by
  induction entries with
  | nil => rfl
  | cons first rest ih =>
    have step := above first (by simp)
    simp [find?, step, ih fun entry member => above entry (by simp [member])]

private theorem increasing_put (key : κ) (value : α) {entries : List (κ × α)}
    (increasing : entries.Pairwise fun a b => compare a.1 b.1 = .lt) :
    (put key value entries).Pairwise fun a b => compare a.1 b.1 = .lt := by
  induction entries with
  | nil => simp [put]
  | cons first rest ih =>
    obtain ⟨least, tail⟩ := List.pairwise_cons.mp increasing
    simp only [put]
    split
    · rename_i before
      refine List.pairwise_cons.mpr ⟨fun entry member => ?_, increasing⟩
      rcases List.mem_cons.mp member with rfl | member
      · exact before
      · exact Std.TransCmp.lt_trans before (least entry member)
    · rename_i same
      cases Std.LawfulEqCmp.eq_of_compare same
      exact List.pairwise_cons.mpr ⟨least, tail⟩
    · rename_i after
      refine List.pairwise_cons.mpr ⟨fun entry member => ?_, ih tail⟩
      rcases mem_put member with rfl | member
      · exact Std.OrientedCmp.lt_of_gt after
      · exact least entry member

/-- The table with a value stored under a key, in place of any other. -/
def insert (table : Table κ α) (key : κ) (value : α) : Table κ α :=
  ⟨put key value table.entries, increasing_put key value table.increasing⟩

/-- Later entries replace earlier ones of the same key. -/
def insertAll (table : Table κ α) (entries : List (κ × α)) : Table κ α :=
  entries.foldl (fun table entry => table.insert entry.1 entry.2) table

def ofList (entries : List (κ × α)) : Table κ α := empty.insertAll entries

private theorem find?_put (key other : κ) (value : α) (entries : List (κ × α)) :
    find? other (put key value entries) =
      if compare other key = .eq then some value else find? other entries := by
  induction entries with
  | nil => simp [put, find?]
  | cons first rest ih =>
    obtain ⟨at', stored⟩ := first
    simp only [put]
    split
    · simp [find?]
    · rename_i same
      cases Std.LawfulEqCmp.eq_of_compare same
      by_cases hit : compare other key = .eq <;> simp [find?, hit]
    · rename_i after
      simp only [find?, ih]
      by_cases hit : compare other key = .eq
      · cases Std.LawfulEqCmp.eq_of_compare hit
        simp [after]
      · simp [hit]

theorem get?_insert [DecidableEq κ] (table : Table κ α) (key other : κ) (value : α) :
    (table.insert key value).get? other = if other = key then some value else table.get? other := by
  simp only [get?, insert, find?_put, Std.LawfulEqCmp.compare_eq_iff_eq]

@[simp] theorem get?_insert_self (table : Table κ α) (key : κ) (value : α) :
    (table.insert key value).get? key = some value := by
  simp [get?, insert, find?_put]

theorem get?_insert_of_ne (table : Table κ α) {key other : κ} (value : α) (apart : other ≠ key) :
    (table.insert key value).get? other = table.get? other := by
  simp [get?, insert, find?_put, apart]

@[simp] theorem get?_empty (key : κ) : (empty : Table κ α).get? key = none := rfl

theorem get?_erase [DecidableEq κ] (table : Table κ α) (key other : κ) :
    (table.erase key).get? other = if other = key then none else table.get? other := by
  have entries (rows : List (κ × α)) : find? other (rows.filter (compare key ·.1 != .eq)) =
      if other = key then none else find? other rows := by
    induction rows with
    | nil => simp [find?]
    | cons first rest ih =>
      by_cases hit : key = first.1
      · by_cases same : other = key <;> simp_all [find?]
      · by_cases same : other = key <;> simp_all [find?]
  exact entries table.entries

/-- A look-up finds exactly the entries. -/
theorem get?_eq_some_iff {table : Table κ α} {key : κ} {value : α} :
    table.get? key = some value ↔ (key, value) ∈ table.entries := by
  obtain ⟨entries, increasing⟩ := table
  simp only [get?]
  induction entries with
  | nil => simp [find?]
  | cons first rest ih =>
    obtain ⟨least, tail⟩ := List.pairwise_cons.mp increasing
    obtain ⟨at', stored⟩ := first
    by_cases hit : key = at'
    · subst hit
      have absent : ∀ other, (key, other) ∉ rest := fun other member => by
        have := least _ member
        simp at this
      simp [find?, absent value, eq_comm]
    · simp [find?, hit, ih tail]

theorem mem_values_iff {table : Table κ α} {value : α} :
    value ∈ table.values ↔ ∃ key, table.get? key = some value := by
  simp only [values, List.mem_map, get?_eq_some_iff]
  constructor
  · rintro ⟨⟨key, stored⟩, member, rfl⟩
    exact ⟨key, member⟩
  · rintro ⟨key, member⟩
    exact ⟨(key, value), member, rfl⟩

theorem mem_keys_iff {table : Table κ α} {key : κ} :
    key ∈ table.keys ↔ ∃ value, table.get? key = some value := by
  simp only [keys, List.mem_map, get?_eq_some_iff]
  constructor
  · rintro ⟨⟨at', value⟩, member, rfl⟩
    exact ⟨value, member⟩
  · rintro ⟨value, member⟩
    exact ⟨(key, value), member, rfl⟩

private theorem eq_of_find? {left right : List (κ × α)}
    (first : left.Pairwise fun a b => compare a.1 b.1 = .lt)
    (second : right.Pairwise fun a b => compare a.1 b.1 = .lt)
    (same : ∀ key, find? key left = find? key right) : left = right := by
  induction left generalizing right with
  | nil =>
    cases right with
    | nil => rfl
    | cons entry rest => simpa [find?] using same entry.1
  | cons entry rest ih =>
    cases right with
    | nil => simpa [find?] using same entry.1
    | cons other rest' =>
      obtain ⟨least, tail⟩ := List.pairwise_cons.mp first
      obtain ⟨least', tail'⟩ := List.pairwise_cons.mp second
      have level : compare entry.1 other.1 = .eq := by
        cases order : compare entry.1 other.1 with
        | eq => rfl
        | lt =>
          have missing : find? entry.1 (other :: rest') = none := by
            refine find?_of_lt fun next member => ?_
            rcases List.mem_cons.mp member with rfl | member
            · exact order
            · exact Std.TransCmp.lt_trans order (least' next member)
          have := same entry.1
          rw [missing] at this
          simp [find?] at this
        | gt =>
          have order := Std.OrientedCmp.lt_of_gt order
          have missing : find? other.1 (entry :: rest) = none := by
            refine find?_of_lt fun next member => ?_
            rcases List.mem_cons.mp member with rfl | member
            · exact order
            · exact Std.TransCmp.lt_trans order (least next member)
          have := same other.1
          rw [missing] at this
          simp [find?] at this
      have key : entry.1 = other.1 := Std.LawfulEqCmp.eq_of_compare level
      obtain ⟨at', stored⟩ := entry
      obtain ⟨at'', stored'⟩ := other
      cases key
      have value : stored = stored' := by simpa [find?] using same at'
      cases value
      congr 1
      refine ih tail tail' fun key => ?_
      by_cases hit : key = at'
      · subst hit
        rw [find?_of_lt least, find?_of_lt least']
      · simpa [find?, hit] using same key

/-- A table is determined by its look-ups. -/
theorem ext_get? {left right : Table κ α} (same : ∀ key, left.get? key = right.get? key) :
    left = right := by
  obtain ⟨entries, increasing⟩ := left
  obtain ⟨entries', increasing'⟩ := right
  cases eq_of_find? increasing increasing' same
  rfl

end Table

end ScriptEngine
