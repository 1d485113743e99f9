import ScriptEngine.Binary64

set_option autoImplicit false

namespace ScriptEngine

/-- The number `digits * 10 ^ exponent`. -/
structure Decimal where
  digits : Nat
  exponent : Int
deriving DecidableEq, Repr

/-- A number of digits in base ten, at least one. -/
def digitCount (n : Nat) : Nat := (Nat.toDigits 10 n).length

namespace Decimal

/-- The same number without zeros at the end of its digits. -/
def trim : Nat → Decimal → Decimal
  | 0, number => number
  | bound + 1, number =>
    if number.digits % 10 = 0 then trim bound ⟨number.digits / 10, number.exponent + 1⟩
    else number

/-- Positional text: zeros fill the places up to the decimal point. -/
def text (number : Decimal) : String :=
  let number := number.trim (digitCount number.digits)
  let digits := Nat.toDigits 10 number.digits
  if 0 ≤ number.exponent then
    String.ofList (digits ++ List.replicate number.exponent.toNat '0')
  else
    let places := (-number.exponent).toNat
    if places < digits.length then
      let whole := digits.length - places
      String.ofList (digits.take whole ++ '.' :: digits.drop whole)
    else
      String.ofList ('0' :: '.' :: (List.replicate (places - digits.length) '0' ++ digits))

end Decimal

/-- A positive number together with the numbers around it that round to the same float, all as
numerators over one denominator. The ends belong to the interval iff it is `closed`. -/
structure Rounding where
  value : Nat
  lower : Nat
  upper : Nat
  denominator : Nat
  closed : Bool

namespace Rounding

/-- The interval around `mantissa * 2 ^ exponent` reaches half way to the neighbouring floats. The
neighbour below a power of two is nearer by half. -/
def ofParts (mantissa : Nat) (exponent : Int) : Rounding :=
  let scale := 1 <<< (exponent - 2).toNat
  let below := if mantissa = Binary64.leadingBit then 1 else 2
  { value := 4 * mantissa * scale
    lower := (4 * mantissa - below) * scale
    upper := (4 * mantissa + 2) * scale
    denominator := 1 <<< (2 - exponent).toNat
    closed := mantissa % 2 == 0 }

def leadingPlace (r : Rounding) : Int :=
  if r.denominator ≤ r.value then digitCount (r.value / r.denominator) - 1
  else -(digitCount ((r.denominator + r.value - 1) / r.value - 1) : Int)

/-- Whether a decimal lies in the interval. -/
def contains (r : Rounding) (number : Decimal) : Bool :=
  let point := number.digits * Nat.pow 10 number.exponent.toNat * r.denominator
  let unit := Nat.pow 10 (-number.exponent).toNat
  if r.closed then r.lower * unit ≤ point && point ≤ r.upper * unit
  else r.lower * unit < point && point < r.upper * unit

/-- The best decimal on the grid of multiples of `10 ^ exponent`: one of the two neighbours of
the value, if it lies in the interval. -/
def onGrid (r : Rounding) (exponent : Int) : Option Decimal :=
  let numerator := r.value * Nat.pow 10 (-exponent).toNat
  let step := r.denominator * Nat.pow 10 exponent.toNat
  let down : Decimal := ⟨numerator / step, exponent⟩
  let up : Decimal := ⟨numerator / step + 1, exponent⟩
  let nearerDown := 2 * (numerator % step) < step
  match r.contains down, r.contains up with
  | true, true => some (if nearerDown then down else up)
  | true, false => some down
  | false, true => some up
  | false, false => none

/-- The first grid with a decimal in the interval, from one digit up. Seventeen digits always
suffice for a float. -/
def shortest (r : Rounding) : Decimal :=
  ((List.range 17).findSome? fun (extra : Nat) => r.onGrid (r.leadingPlace - extra)).getD
    ⟨r.value / r.denominator, 0⟩

end Rounding

namespace Binary64

def text (number : Binary64) : String :=
  let sign := if number.negative then "-" else ""
  if number.mantissa = 0 then sign ++ "0"
  else sign ++ (Rounding.ofParts number.mantissa number.exponent).shortest.text

end Binary64

/-- The fewest digits that read back as the same float, of those the nearest, and of two equally
near ones the larger. The text is positional, without a fraction where the number is whole. -/
def floatText (value : Float) : String :=
  match Magnitude.ofFloat value with
  | .notANumber => "NaN"
  | .infinite negative => if negative then "-inf" else "inf"
  | .finite number => number.text

end ScriptEngine
