set_option autoImplicit false

namespace ScriptEngine

/-- The number `mantissa * 2 ^ exponent`, negated if the sign says so. -/
structure Binary64 where
  negative : Bool
  mantissa : Nat
  exponent : Int
deriving DecidableEq, Repr

inductive Magnitude where
  | notANumber
  | infinite (negative : Bool)
  | finite (number : Binary64)
deriving DecidableEq, Repr

namespace Binary64

/-- The first mantissa of a normal number. -/
def leadingBit : Nat := 1 <<< 52

/-- The exponent of the subnormal numbers, the smallest there is. -/
def leastExponent : Int := -1074

/-- The float that the number is, for a number that is exactly a float: the mantissa moves up
until its leading bit is in place or the exponent cannot fall any further. -/
def toFloat (number : Binary64) : Float :=
  let room := (number.exponent - leastExponent).toNat
  let shift := min (52 - number.mantissa.log2) room
  let mantissa := number.mantissa <<< shift
  let field := if mantissa < leadingBit then 0 else room - shift + 1
  let sign := if number.negative then 1 <<< 63 else 0
  if number.mantissa = 0 then Float.ofBits (UInt64.ofNat sign)
  else Float.ofBits (UInt64.ofNat (sign + field * leadingBit + mantissa % leadingBit))

end Binary64

/-- The sign, mantissa and exponent behind the bits of a float. -/
def Magnitude.ofFloat (value : Float) : Magnitude :=
  let bits := value.toBits.toNat
  let negative := bits >>> 63 == 1
  let field : Nat := (bits >>> 52) % 2048
  let fraction := bits % Binary64.leadingBit
  if field = 2047 then
    if fraction = 0 then .infinite negative else .notANumber
  else if field = 0 then .finite ⟨negative, fraction, Binary64.leastExponent⟩
  else .finite ⟨negative, fraction + Binary64.leadingBit, (field : Int) - 1075⟩

end ScriptEngine
