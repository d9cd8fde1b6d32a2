import AbiBindings.Emit.LibrarySymbol

/-!
# Elementary types

The shorthands of the ABI's elementary types, and the types of emitted code that hold their
values: eight-bit integers stay numbers, all other integers become big integers, and byte texts of
every length share one type.
-/

namespace AbiBindings

/-- The full name of an elementary type; names that are no shorthand stand for themselves. -/
def canonicalElementary (name : String) : String :=
  if name = "uint" then "uint256"
  else if name = "int" then "int256"
  else if name = "fixed" then "fixed128x18"
  else if name = "ufixed" then "ufixed128x18"
  else if name = "byte" then "bytes1"
  else name

/-- A type of emitted code that holds values of elementary ABI types. -/
inductive ElementaryType where
  | address
  | bool
  | string
  | bytes
  | bigInt
  | int8
  | uint8
  deriving DecidableEq

/-- The value of a text of ASCII digits, of which there is at least one. -/
def decimalValue? (digits : List Char) : Option Nat :=
  if digits.isEmpty || !digits.all Char.isDigit then none
  else some (Nat.ofDigitChars 10 digits 0)

/-- The width written behind the name of a type: a number below 2^16 that does not begin with `0`;
one plus sign may stand before it. -/
def width? (digits : List Char) : Option Nat :=
  let number? := match digits with
    | '0' :: _ => none
    | '+' :: rest => decimalValue? rest
    | _ => decimalValue? digits
  number?.filter (· < Nat.pow 2 16)

/-- What is left of a text that begins with the stem. -/
def afterStem? (stem : String) (s : List Char) : Option (List Char) :=
  if stem.toList.isPrefixOf s then some (s.drop stem.length) else none

namespace ElementaryType

/-- The type that holds values of the named elementary type, if it is one: a byte text of one to
thirty-two bytes, an integer of a multiple of eight bits up to 256, or one of the plain names. -/
def ofText? (name : String) : Option ElementaryType :=
  let full := canonicalElementary name
  if full = "address" then some address
  else if full = "bool" then some bool
  else if full = "string" then some string
  else if full = "bytes" then some bytes
  else if full = "int8" then some int8
  else if full = "uint8" then some uint8
  else
    match afterStem? "bytes" full.toList with
    | some rest => (width? rest).bind fun n => if 1 ≤ n ∧ n ≤ 32 then some bytes else none
    | none =>
      (afterStem? "uint" full.toList <|> afterStem? "int" full.toList).bind fun rest =>
        (width? rest).bind fun n =>
          if 8 ≤ n ∧ n ≤ 256 ∧ n % 8 = 0 then some bigInt else none

/-- The name of the type in emitted code. -/
def text : ElementaryType → String
  | address => "Address"
  | bool => "bool"
  | string => "string"
  | bytes => "Bytes"
  | bigInt => "BigInt"
  | int8 => "i8"
  | uint8 => "u8"

/-- The library symbol that the name refers to, where it is not built into the language. -/
def symbol? : ElementaryType → Option LibrarySymbol
  | address => some .address
  | bytes => some .bytes
  | bigInt => some .bigInt
  | _ => none

end ElementaryType

end AbiBindings
