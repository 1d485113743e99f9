set_option autoImplicit false

namespace ScriptEngine

/-- Ranges of code points, both ends included. -/
structure CharClass where
  ranges : List (Nat × Nat)

def CharClass.contains (members : CharClass) (char : Char) : Bool :=
  members.ranges.any fun (first, last) => first ≤ char.toNat && char.toNat ≤ last

end ScriptEngine
