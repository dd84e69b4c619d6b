/-
Numbers of a document: integers of any size, and double-precision numbers. Their text has integers
in decimal and doubles by their shortest digits, positional between `0.0001` and `10^16` and with
an exponent of at least two digits elsewhere.
-/
import StructuralTyping.Decimal.Shortest

namespace StructuralTyping

namespace Double

/-- The digits `digits` with the point after `point` of them. A point at the end is followed by a
zero. -/
def positional (digits : List Char) (point : Int) : List Char :=
  if point ≤ 0 then '0' :: '.' :: (List.replicate (-point).toNat '0' ++ digits)
  else
    let whole := digits.take point.toNat
    let part := digits.drop point.toNat
    whole ++ List.replicate (point.toNat - whole.length) '0' ++
      '.' :: (if part.isEmpty then ['0'] else part)

/-- The digits with a point after the first of them, and an exponent. -/
def scientific (digits : List Char) (exponent : Int) : List Char :=
  let size := Nat.toDigits 10 exponent.natAbs
  digits.take 1 ++ (if digits.length ≤ 1 then [] else '.' :: digits.drop 1) ++
    'e' :: (if exponent < 0 then '-' else '+') :: (List.replicate (2 - size.length) '0' ++ size)

/-- The text of a number. -/
def text : Double → String
  | .nan => "nan"
  | .infinite negative => if negative then "-inf" else "inf"
  | .finite negative mantissa exponent =>
    let sign := if negative then "-" else ""
    if mantissa = 0 then sign ++ "0.0"
    else
      let (value, power) := shortest mantissa exponent
      let all := Nat.toDigits 10 value
      let point : Int := all.length + power
      let digits := (all.reverse.dropWhile (· == '0')).reverse
      let body :=
        if -4 < point ∧ point ≤ 16 then positional digits point else scientific digits (point - 1)
      sign ++ String.ofList body

end Double

/-- A number of a document. -/
inductive Numeral where
  | int (value : Int)
  | double (value : Double)
  deriving Repr, DecidableEq, Inhabited

namespace Numeral

/-- Whether a number is zero. -/
def isZero : Numeral → Bool
  | .int value => value == 0
  | .double value => value.isZero

/-- The text of a number. -/
def text : Numeral → String
  | .int value => toString value
  | .double value => value.text

end Numeral

end StructuralTyping
