/-
Double-precision numbers as exact data, and rounding to the nearest of them. All arithmetic is on
natural numbers; a half goes to the even neighbour.
-/
namespace StructuralTyping

/-- A double-precision number: `± mantissa · 2^exponent`, an infinity, or not a number. -/
inductive Double where
  | finite (negative : Bool) (mantissa : Nat) (exponent : Int)
  | infinite (negative : Bool)
  | nan
  deriving Repr, DecidableEq, Inhabited

namespace Double

/-- The least exponent of a finite number. -/
def minExponent : Int := -1074

/-- The greatest exponent of a finite number. -/
def maxExponent : Int := 971

/-- Zero with a sign. -/
def zero (negative : Bool) : Double := .finite negative 0 minExponent

/-- Whether a number is zero, of either sign. -/
def isZero : Double → Bool
  | .finite _ mantissa _ => mantissa == 0
  | _ => false

/-- A quotient rounded to the nearest integer, a half to the even one. -/
def divEven (num den : Nat) : Nat :=
  let rest := num % den
  if 2 * rest < den || (2 * rest == den && num / den % 2 == 0) then num / den else num / den + 1

/-- The fraction `num / den` divided by `base ^ power`. -/
def divPow (base : Nat) (power : Int) (num den : Nat) : Nat × Nat :=
  if 0 ≤ power then (num, den * Nat.pow base power.toNat) else (num * Nat.pow base (-power).toNat, den)

/-- The exponent that gives a positive fraction a mantissa of 53 bits, or the least one. -/
def exponentOf (num den : Nat) : Int :=
  let guess : Int := (num.log2 : Int) - den.log2 - 53
  let (n, d) := divPow 2 guess num den
  max (if n / d < Nat.pow 2 53 then guess else guess + 1) minExponent

/-- The number nearest to `num / den`. -/
def nearest (negative : Bool) (num den : Nat) : Double :=
  if num = 0 then zero negative
  else
    let exponent := exponentOf num den
    let (n, d) := divPow 2 exponent num den
    let mantissa := divEven n d
    let (mantissa, exponent) :=
      if mantissa = Nat.pow 2 53 then (Nat.pow 2 52, exponent + 1) else (mantissa, exponent)
    if maxExponent < exponent then .infinite negative else .finite negative mantissa exponent

/-- The number nearest to `digits · 10^power`. Far out of range the power alone decides. -/
def ofDecimal (negative : Bool) (digits : Nat) (power : Int) : Double :=
  let size : Int := (Nat.toDigits 10 digits).length + power
  if digits = 0 || size < -400 then zero negative
  else if 400 < size then .infinite negative
  else
    let (num, den) := divPow 10 (-power) digits 1
    nearest negative num den

end Double

end StructuralTyping
