/-!
# Decimal numbers

A number as it is written in decimal: digits and a power of ten. Two questions are asked of it:
whether it lies beyond the range of 64-bit binary numbers, and how it is written out.
-/

namespace AbiBindings

/-- The number `digits * 10 ^ exponent`, or its negative. -/
structure Decimal where
  negative : Bool
  digits : Nat
  exponent : Int

namespace Decimal

/-- The least whole number that is rounded to infinity: half a unit above the greatest one. -/
def overflowBound : Nat :=
  Nat.pow 2 1024 - Nat.pow 2 970

/-- The number of digits before the decimal point, counted from the first digit that is not zero. -/
def magnitude (d : Decimal) : Int :=
  (Nat.toDigits 10 d.digits).length + d.exponent

/-- Whether the absolute value is beyond the range of 64-bit binary numbers. Values of another
order of magnitude than the bound are told apart without computing the power of ten. -/
def overflows (d : Decimal) : Bool :=
  if d.digits = 0 ∨ d.magnitude < 300 then false
  else if 320 < d.magnitude then true
  else decide (overflowBound * Nat.pow 10 (-d.exponent).toNat
    ≤ d.digits * Nat.pow 10 d.exponent.toNat)

/-- The digits without the zeros at their end. -/
def significant (d : Decimal) : List Char :=
  ((Nat.toDigits 10 d.digits).reverse.dropWhile (· == '0')).reverse

/-- The digits with a point after the given number of them; a zero stands where none is left on
either side. -/
def withPoint (digits : List Char) (point : Nat) : List Char :=
  let before := digits.take point
  let after := digits.drop point
  (if before.isEmpty then ['0'] else before) ++ '.' :: (if after.isEmpty then ['0'] else after)

/-- The number written with a point: positionally from five places behind the point up to sixteen
digits before it, otherwise with one digit before the point and an exponent with its sign. -/
def pointText (d : Decimal) : String :=
  let digits := d.significant
  let sign := if d.negative then "-" else ""
  let body :=
    if d.digits = 0 then ['0', '.', '0']
    else if 0 < d.magnitude ∧ d.magnitude ≤ 16 then
      withPoint (digits ++ List.replicate (d.magnitude.toNat - digits.length) '0')
        d.magnitude.toNat
    else if -5 < d.magnitude ∧ d.magnitude ≤ 0 then
      withPoint (List.replicate (-d.magnitude).toNat '0' ++ digits) 0
    else
      (if digits.length = 1 then digits else withPoint digits 1)
        ++ 'e' :: (if 0 < d.magnitude then ['+'] else []) ++ (toString (d.magnitude - 1)).toList
  sign ++ String.ofList body

end Decimal

end AbiBindings
