import AbiBindings.Emit.ValueType

/-!
# Decoding expressions

Decoded values arrive as text. An expression turns the text into a value of a given type: an array
is split and each item is decoded by a nested function, whose parameter is numbered by its level;
what is no array is converted by a rule that its type name selects.
-/

namespace AbiBindings

/-- How a text becomes a value that is no array. -/
inductive Conversion where
  /-- The class of the given name reads the text. -/
  | fromString (className : String)
  /-- Bytes are read from hexadecimal digits. -/
  | fromHex
  /-- The type of the given name parses the text. -/
  | parse (typeName : String)
  /-- A truth value is parsed as a number. -/
  | truth
  /-- The text is the value. -/
  | asIs
  deriving DecidableEq

namespace Conversion

/-- The expression that converts a given one. -/
def text (value : String) : Conversion → String
  | fromString className => className ++ ".fromString(" ++ value ++ ")"
  | fromHex => "Bytes.fromHexString(" ++ value ++ ")"
  | parse typeName => typeName ++ ".parse(" ++ value ++ ")"
  | truth => "u8.parse(" ++ value ++ ") as bool"
  | asIs => value

/-- The conversion as a function of a text variable. -/
def functionText (item : String) (c : Conversion) : String :=
  "(" ++ item ++ ": string) => " ++ c.text item

/-- The conversion as a return statement. -/
def returnText (value : String) (c : Conversion) : String :=
  "return " ++ c.text value

end Conversion

/-- The conversion that a type name selects: those of elementary types first, then the classes of
structs. -/
def StructRegistry.conversion (r : StructRegistry) (typeName : String) : Conversion :=
  if typeName = "BigInt" ∨ typeName = "Address" then .fromString typeName
  else if typeName = "Bytes" then .fromHex
  else if typeName = "i8" ∨ typeName = "u8" then .parse typeName
  else if typeName = "bool" then .truth
  else if r.isClass typeName then .parse typeName
  else .asIs

/-- An expression that decodes a text. -/
inductive Decoding where
  /-- Convert what `access` denotes. -/
  | value (conversion : Conversion) (access : String)
  /-- Split what `access` denotes and decode each item, which `item` denotes inside. -/
  | each (access elementType item : String) (inner : Decoding)

namespace Decoding

/-- The expression as it is written. -/
def text : Decoding → String
  | value conversion access => conversion.text access
  | each access elementType item inner =>
    access ++ " === '' ? [] : parseCSVNotNullable(" ++ access ++ ").map<" ++ elementType ++ ">(("
      ++ item ++ ": string) => " ++ inner.text ++ ")"

/-- The library symbols that the splitting refers to. -/
def symbols : Decoding → List LibrarySymbol
  | value _ _ => []
  | each _ _ _ inner => .parseCsv :: inner.symbols

/-- The variable of the nested function at a level. -/
def itemName (level : Nat) : String :=
  "item" ++ toString level

end Decoding

/-- Decode what `access` denotes into arrays of the given depth around the named type; nested
functions are numbered from `level` on. -/
def StructRegistry.decoding (r : StructRegistry) (typeName : String) :
    Nat → String → Nat → Decoding
  | 0, access, _ => .value (r.conversion typeName) access
  | depth + 1, access, level =>
    .each access (markedName typeName depth) (Decoding.itemName level)
      (r.decoding typeName depth (Decoding.itemName level) (level + 1))

/-- Decode what `access` denotes into a value of the given type. A type keeps its name and its depth
apart, so no mark is taken off a text here: this is `decoding` of what `unmarkedName` gives for the
text of the type, as the name inside all levels has no marks of its own. -/
def StructRegistry.decode (r : StructRegistry) (t : ValueType) (access : String) : Decoding :=
  r.decoding t.base.name t.depth access 0

end AbiBindings
