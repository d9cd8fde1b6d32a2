import AbiBindings.Number.Shortest

/-!
# Numbers of JSON texts

A number that is written without a point and without an exponent and fits 64 bits, with or
without a sign, is kept as a whole number. Any other is kept as a binary number: as many of its
digits as fit 64 bits are taken up, and they are scaled by the power of ten that remains.
-/

namespace AbiBindings.Json

/-- A number of a JSON text. -/
inductive Number where
  | whole (n : Int)
  | binary (negative : Bool) (value : Binary)

/-- How a number is shown: a whole number by its digits, a binary one by the fewest digits that
tell it from the others, with a point or an exponent. -/
def Number.text : Number → String
  | whole n => toString n
  | binary negative value => (value.shortest negative).pointText

/-! ## Numbers as they are written -/

/-- The sign of a number, its digits on both sides of the point, and its exponent; nothing stands
for a point or an exponent that is not written. -/
structure WrittenNumber where
  negative : Bool
  whole : List Char
  fraction? : Option (List Char)
  exponent? : Option Int

/-- The exponent that a number ends with, or nothing where there is none. -/
def exponentPart? : List Char → Option (Option Int)
  | [] => some none
  | e :: rest =>
    if e != 'e' && e != 'E' then none
    else
      let (negative, digits) := match rest with
        | '-' :: more => (true, more)
        | '+' :: more => (false, more)
        | more => (false, more)
      if digits.isEmpty || !digits.all Char.isDigit then none
      else
        let n : Int := Nat.ofDigitChars 10 digits 0
        some (some (if negative then -n else n))

/-- The parts of a number's text. There are digits before the point, and behind it where there is
one; no zero leads other digits. -/
def WrittenNumber.ofText? (s : List Char) : Option WrittenNumber :=
  let (negative, s) := match s with
    | '-' :: rest => (true, rest)
    | rest => (false, rest)
  let whole := s.takeWhile Char.isDigit
  let rest := s.dropWhile Char.isDigit
  let (fraction?, rest) := match rest with
    | '.' :: more => (some (more.takeWhile Char.isDigit), more.dropWhile Char.isDigit)
    | more => (none, more)
  if whole.isEmpty || (whole.head? == some '0' && whole.length != 1) || fraction? == some [] then
    none
  else (exponentPart? rest).map fun exponent? => { negative, whole, fraction?, exponent? }

/-- Append digits to a number as long as the result fits 64 bits: the result, and the digits that
are left. -/
def takeUp (value : Nat) : List Char → Nat × List Char
  | [] => (value, [])
  | d :: rest =>
    let next := Nat.ofDigitChars 10 [d] value
    if next < Nat.pow 2 64 then takeUp next rest else (value, d :: rest)

/-- The digits that are taken up and the power of ten that scales them. A digit before the point
that is left out counts as a place; one behind the point that is taken up counts as a place less,
also after digits that were left out before the point. -/
def WrittenNumber.scaled (w : WrittenNumber) : Nat × Int :=
  let fraction := w.fraction?.getD []
  let (digits, wholeLeft) := takeUp 0 w.whole
  let (digits, fractionLeft) := takeUp digits fraction
  (digits, w.exponent?.getD 0 + wholeLeft.length - (fraction.length - fractionLeft.length : Nat))

/-- Whether a number is whole: there is neither a point nor an exponent, and the number fits 64
bits, with a sign if it is below zero. The negative zero is no whole number. -/
def WrittenNumber.isWhole (w : WrittenNumber) : Bool :=
  let n := Nat.ofDigitChars 10 w.whole 0
  w.fraction?.isNone && w.exponent?.isNone
    && (if w.negative then 0 < n && n ≤ Nat.pow 2 63 else n < Nat.pow 2 64)

/-- The number that is written, unless it is beyond the range of binary numbers. -/
def WrittenNumber.value? (w : WrittenNumber) : Option Number :=
  if w.isWhole then
    let n : Int := Nat.ofDigitChars 10 w.whole 0
    some (.whole (if w.negative then -n else n))
  else
    let (digits, exponent) := w.scaled
    (Binary.ofScaled? digits exponent).map (.binary w.negative)

end AbiBindings.Json
