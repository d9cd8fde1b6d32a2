import AbiBindings.Abi.Elementary

/-!
# Library forms of values

The encoder takes values of the library's own types. Values of the language's built-in types are
handed over through a constructor of the library; all others as they are.
-/

namespace AbiBindings

/-- How a value is handed to the encoder. -/
inductive LibraryForm where
  | asIs
  | fromBool
  | fromInt8
  | fromUint8
  | fromText
  deriving DecidableEq

namespace LibraryForm

/-- The expression that hands over a value. -/
def text (value : String) : LibraryForm → String
  | asIs => value
  | fromBool => "Bytes.fromBool(" ++ value ++ ")"
  | fromInt8 => "BigInt.fromI8(" ++ value ++ ")"
  | fromUint8 => "BigInt.fromU8(" ++ value ++ ")"
  | fromText => "Bytes.fromUTF8(" ++ value ++ ")"

/-- The library symbols that the expression refers to. -/
def symbols : LibraryForm → List LibrarySymbol
  | asIs => []
  | fromBool | fromText => [.bytes]
  | fromInt8 | fromUint8 => [.bigInt]

/-- The form for values of the named type. -/
def ofTypeName (typeName : String) : LibraryForm :=
  if typeName = "bool" then fromBool
  else if typeName = "i8" then fromInt8
  else if typeName = "u8" then fromUint8
  else if typeName = "string" then fromText
  else asIs

end LibraryForm

end AbiBindings
