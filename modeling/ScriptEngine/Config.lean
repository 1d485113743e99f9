set_option autoImplicit false

namespace ScriptEngine

structure Config where
  /-- Allocations between two automatic collections; zero turns these off. -/
  gcThreshold : Nat := 1024
  /-- How deep calls may nest; without a limit they nest to any depth. -/
  maxCallDepth : Option Nat := some 1024
  /-- What divides the directories of a script path. -/
  pathSeparator : Char := '/'
deriving DecidableEq, Repr, Inhabited

end ScriptEngine
