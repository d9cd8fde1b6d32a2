/-!
# Digits

The values of hexadecimal digits and of texts made of them. Texts of decimal digits are read by
`Nat.ofDigitChars`.
-/

namespace AbiBindings

/-- The value of a hexadecimal digit, in either case. -/
def hexValue? (c : Char) : Option Nat :=
  if '0' ≤ c ∧ c ≤ '9' then some (c.toNat - '0'.toNat)
  else if 'a' ≤ c ∧ c ≤ 'f' then some (c.toNat - 'a'.toNat + 10)
  else if 'A' ≤ c ∧ c ≤ 'F' then some (c.toNat - 'A'.toNat + 10)
  else none

/-- The number that a text of hexadecimal digits denotes. -/
def natOfHex (digits : List Char) : Nat :=
  digits.foldl (fun value d => 16 * value + (hexValue? d).getD 0) 0

end AbiBindings
