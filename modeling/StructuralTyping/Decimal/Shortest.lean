/-
The shortest decimal of a double-precision number: the fewest significant digits that read back as
the number, of those the nearest to it, a tie going to the even digit. Only exact arithmetic on
natural numbers is used.
-/
import StructuralTyping.Decimal.Double

namespace StructuralTyping.Double

/-- The reals that round to a number, as numerators over one denominator; the ends belong to them
if `closed`. -/
structure Interval where
  low : Nat
  value : Nat
  high : Nat
  den : Nat
  closed : Bool
  deriving Repr

/-- The interval of a positive mantissa and an exponent. Below a power of two the neighbours stand
half as far off. -/
def interval (mantissa : Nat) (exponent : Int) : Interval :=
  let below := if mantissa = Nat.pow 2 52 ∧ minExponent < exponent then 1 else 2
  let (scale, den) := divPow 2 (2 - exponent) 1 1
  ⟨(4 * mantissa - below) * scale, 4 * mantissa * scale, (4 * mantissa + 2) * scale, den,
    mantissa % 2 = 0⟩

/-- The least `p` with `num / den < 10^p`. -/
def magnitude (num den : Nat) : Int :=
  if den ≤ num then (Nat.toDigits 10 (num / den)).length
  else
    let least := (den + num - 1) / num - 1
    if least = 0 then 1 else 1 - ((Nat.toDigits 10 least).length : Int)

/-- Whether `n / den` is one of the reals. -/
def Interval.holds (i : Interval) (n : Nat) : Bool :=
  if i.closed then i.low ≤ n && n ≤ i.high else i.low < n && n < i.high

/-- The interval counted in units of `10^power`. -/
def Interval.scale (i : Interval) (power : Int) : Interval :=
  let (factor, den) := divPow 10 power 1 i.den
  ⟨i.low * factor, i.value * factor, i.high * factor, den, i.closed⟩

/-- The multiple of the unit that is in the interval, the nearer one to the value if both
neighbours are. -/
def Interval.pick (i : Interval) : Option Nat :=
  let lower := i.value / i.den
  let rest := i.value % i.den
  let upper := lower + 1
  match i.holds (lower * i.den), i.holds (upper * i.den) with
  | false, false => none
  | true, false => some lower
  | false, true => some upper
  | true, true =>
    some (if 2 * rest < i.den || (2 * rest == i.den && lower % 2 == 0) then lower else upper)

/-- The shortest decimal of a positive number, as digits and a power of ten. Seventeen digits
always read back. -/
def shortest (mantissa : Nat) (exponent : Int) : Nat × Int :=
  let i := interval mantissa exponent
  let top := magnitude i.value i.den
  let tries := (List.range 17).findSome? fun (k : Nat) =>
    let power := top - (k + 1 : Nat)
    (i.scale power).pick.map (·, power)
  tries.getD (i.value / i.den, 0)

end StructuralTyping.Double
