import ScriptEngine.Binary64

set_option autoImplicit false

namespace ScriptEngine

namespace Binary64

/-- Both mantissas are brought to the smaller exponent, where the remainder is one of naturals.
The divisor is not zero. -/
def remainder (dividend divisor : Binary64) : Binary64 :=
  let exponent := min dividend.exponent divisor.exponent
  let left := dividend.mantissa <<< (dividend.exponent - exponent).toNat
  let right := divisor.mantissa <<< (divisor.exponent - exponent).toNat
  ⟨dividend.negative, left % right, exponent⟩

end Binary64

/-- There is no remainder of an infinite dividend or by zero. An infinite divisor leaves the
dividend as it is. -/
def floatRemainder (dividend divisor : Float) : Float :=
  match Magnitude.ofFloat dividend, Magnitude.ofFloat divisor with
  | .finite left, .finite right =>
    if right.mantissa = 0 then 0.0 / 0.0 else (left.remainder right).toFloat
  | .finite _, .infinite _ => dividend
  | _, _ => 0.0 / 0.0

end ScriptEngine
