import ScriptEngine.Space

set_option autoImplicit false

namespace ScriptEngine

/-- Equality of two numbers. An int beside a float is compared as a float. -/
def numericEqual? : Value → Value → Option Bool
  | .int a, .int b => some (a == b)
  | .float a, .float b => some (a == b)
  | .int a, .float b => some (a.toFloat == b)
  | .float a, .int b => some (b.toFloat == a)
  | _, _ => none

/-- The pairs of containers whose comparison has begun. -/
abbrev Compared := List (Handle × Handle)

/-- A value with the name that it stands under; elements of an array stand under no name. -/
abbrev Member := String × Value

namespace Space

/-- Compares members pair by pair and stops at the first difference. -/
def equalMembers (equal : Compared → Value → Value → Except Fault (Bool × Compared)) :
    Compared → List (Member × Member) → Except Fault (Bool × Compared)
  | seen, [] => .ok (true, seen)
  | seen, ((name, a), (name', b)) :: rest =>
    if name = name' then
      match equal seen a b with
      | .ok (true, seen) => equalMembers equal seen rest
      | other => other
    else .ok (false, seen)

def unnamed (items : Array Value) : List Member := items.toList.map (("", ·))

/-- Containers that are under comparison already are taken to be equal, so cyclic structures come to
an end. -/
def equalWithin (space : Space) : Nat → Compared → Value → Value → Except Fault (Bool × Compared)
  | 0, _, _, _ => .error .endlessStructure
  | bound + 1, seen, a, b =>
    match numericEqual? a b with
    | some same => .ok (same, seen)
    | none =>
      match a, b with
      | .array x, .array y =>
        if x = y ∨ (x, y) ∈ seen then .ok (true, seen)
        else do
          let left ← space.array x
          let right ← space.array y
          if left.size = right.size then
            equalMembers (space.equalWithin bound) ((x, y) :: seen)
              ((unnamed left).zip (unnamed right))
          else return (false, (x, y) :: seen)
      | .object x, .object y =>
        if x = y ∨ (x, y) ∈ seen then .ok (true, seen)
        else do
          let left := (← space.objectData x).properties
          let right := (← space.objectData y).properties
          if left.size = right.size then
            equalMembers (space.equalWithin bound) ((x, y) :: seen)
              (left.entries.zip right.entries)
          else return (false, (x, y) :: seen)
      | a, b => .ok (a.identical b, seen)

/-- Whether two values are structurally equal. No comparison nests deeper than there are pairs of
slots. -/
def equal (space : Space) (a b : Value) : Except Fault Bool :=
  return (← space.equalWithin (space.slots.size * space.slots.size + 1) [] a b).1

end Space

end ScriptEngine
