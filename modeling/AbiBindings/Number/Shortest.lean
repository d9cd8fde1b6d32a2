import AbiBindings.Number.Binary
import AbiBindings.Number.Decimal

/-!
# Shortest decimals

A binary number is shown by the fewest decimal digits that are nearer to it than to any other
binary number, or as near to it and to one with an odd `m`. Of two such numbers the nearer one
is taken.
-/

namespace AbiBindings.Binary

/-- The number of digits before the decimal point, counted from the first digit that is not zero,
for a number above zero. No binary number above zero is less than `10 ^ -324`. -/
def magnitude (b : Binary) : Int :=
  (Nat.toDigits 10 (b.numerator * Nat.pow 10 324 / b.denominator)).length - 324

/-- The nearest number with `places` digits among those that round to the binary number, if there
is one. -/
def withDigits? (b : Binary) (places : Nat) : Option (Nat × Int) :=
  let k := b.magnitude - places
  let unit := Nat.pow 2 (2 - b.q).toNat * Nat.pow 10 k.toNat
  let scale := Nat.pow 2 (b.q - 2).toNat * Nat.pow 10 (-k).toNat
  let value := 4 * b.m * scale
  let low := (4 * b.m - (if b.m = Nat.pow 2 52 ∧ -1074 < b.q then 1 else 2)) * scale
  let high := (4 * b.m + 2) * scale
  let fits (c : Nat) : Bool :=
    if b.m % 2 = 0 then low ≤ c * unit && c * unit ≤ high else low < c * unit && c * unit < high
  let below := value / unit
  let nearer := roundQuotient value unit
  let farther := if nearer = below then below + 1 else below
  if fits nearer then some (nearer, k) else if fits farther then some (farther, k) else none

/-- The decimal number with the fewest digits that rounds to the binary number; the exact value
if seventeen digits were not enough. -/
def shortest (b : Binary) (negative : Bool) : Decimal :=
  if b.m = 0 then ⟨negative, 0, 0⟩
  else
    match (List.range 17).findSome? fun i => b.withDigits? (i + 1) with
    | some (digits, exponent) => ⟨negative, digits, exponent⟩
    | none => ⟨negative, b.numerator * Nat.pow 5 (-b.q).toNat, -(-b.q).toNat⟩

end AbiBindings.Binary
