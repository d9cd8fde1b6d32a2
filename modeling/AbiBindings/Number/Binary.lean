/-!
# Binary numbers of 64 bits

The absolute values `m * 2 ^ q` with `m < 2 ^ 53` and `-1074 ≤ q`, where `2 ^ 52 ≤ m` unless `q`
is the least. A product or a quotient is the number nearest to the exact one, the even `m` where
two are equally near. Exponents have no upper end here: a result beyond the range is one that
overflows.
-/

namespace AbiBindings

/-- The binary number `m * 2 ^ q`. -/
structure Binary where
  m : Nat
  q : Int

/-- The quotient rounded to the nearest whole number, a half to the even one. -/
def roundQuotient (n d : Nat) : Nat :=
  let floor := n / d
  let rest := n % d
  if d < 2 * rest ∨ (2 * rest = d ∧ floor % 2 = 1) then floor + 1 else floor

namespace Binary

/-- The number zero. -/
def zero : Binary :=
  ⟨0, -1074⟩

/-- The binary number nearest to a quotient. -/
def ofQuotient (n d : Nat) : Binary :=
  if n = 0 then zero
  else
    let scaled (q : Int) : Nat × Nat := (n * Nat.pow 2 (-q).toNat, d * Nat.pow 2 q.toNat)
    let low : Int := max (-1074) (((n.log2 : Int) - d.log2) - 53)
    let q := if (scaled low).1 / (scaled low).2 < Nat.pow 2 53 then low else low + 1
    let m := roundQuotient (scaled q).1 (scaled q).2
    if m = Nat.pow 2 53 then ⟨Nat.pow 2 52, q + 1⟩ else ⟨m, q⟩

/-- The numerator of the number as a quotient. -/
def numerator (b : Binary) : Nat :=
  b.m * Nat.pow 2 b.q.toNat

/-- The denominator of the number as a quotient. -/
def denominator (b : Binary) : Nat :=
  Nat.pow 2 (-b.q).toNat

/-- The product of two numbers. -/
def mul (a b : Binary) : Binary :=
  ofQuotient (a.numerator * b.numerator) (a.denominator * b.denominator)

/-- The quotient of two numbers. -/
def div (a b : Binary) : Binary :=
  ofQuotient (a.numerator * b.denominator) (a.denominator * b.numerator)

/-- Whether a number is beyond the range, which ends below `2 ^ 1024`. -/
def overflows (b : Binary) : Bool :=
  971 < b.q

/-- The binary number nearest to a power of ten. -/
def powerOfTen (k : Nat) : Binary :=
  ofQuotient (Nat.pow 10 k) 1

/-- The number `digits * 10 ^ exponent`, unless it is beyond the range. It is rounded more than
once: the digits become a binary number, and so does the power of ten by which it is multiplied
or divided, which is `10 ^ 308` at most; what is left of a lower exponent takes a second
division, after which a number below the least one is zero. -/
def ofScaled? (digits : Nat) (exponent : Int) : Option Binary :=
  let start := ofQuotient digits 1
  if digits = 0 ∨ exponent < -616 then some zero
  else if exponent < -308 then
    some ((start.div (powerOfTen 308)).div (powerOfTen (-exponent - 308).toNat))
  else if exponent < 0 then some (start.div (powerOfTen (-exponent).toNat))
  else if 308 < exponent then none
  else
    let product := start.mul (powerOfTen exponent.toNat)
    if product.overflows then none else some product

end Binary

end AbiBindings
