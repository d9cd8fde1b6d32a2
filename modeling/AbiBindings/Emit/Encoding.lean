import AbiBindings.Abi.Parameter
import AbiBindings.Abi.Signature
import AbiBindings.Emit.LibraryForm
import AbiBindings.Emit.Warning

/-!
# Encoding expressions

An expression hands a value to the encoder together with the canonical text of its type, in which
`()` stands for every tuple: a struct encodes its own components. The items of an array are
encoded by a nested function, whose parameter is numbered by its level. The expression depends on
the shape of the type alone.
-/

namespace AbiBindings

/-- An expression that encodes a value. -/
inductive Encoding where
  /-- A value of an elementary type. -/
  | single (typeName value : String)
  /-- A struct. -/
  | struct (value : String)
  /-- The items of an array, each denoted by `item` inside. -/
  | each (signature value item : String) (inner : Encoding)

namespace Encoding

/-- What stands for a tuple in the signatures that are handed to the encoder. -/
def tupleSignature : String :=
  "()"

/-- How a value of the named elementary type is handed over. -/
def form (typeName : String) : LibraryForm :=
  match ElementaryType.ofText? typeName with
  | some type => LibraryForm.ofTypeName type.text
  | none => .asIs

/-- The expression as it is written. -/
def text : Encoding → String
  | single typeName value =>
    "EvmEncodeParam.fromValue('" ++ canonicalElementary typeName ++ "', "
      ++ (form typeName).text value ++ ")"
  | struct value =>
    "EvmEncodeParam.fromValues('" ++ tupleSignature ++ "', " ++ value ++ ".toEvmEncodeParams())"
  | each signature value item inner =>
    "EvmEncodeParam.fromValues('" ++ signature ++ "', " ++ value ++ ".map<EvmEncodeParam>(("
      ++ item ++ ") => " ++ inner.text ++ "))"

/-- The library symbols that the expression asks for; a value's own type is among them. -/
def symbols : Encoding → List LibrarySymbol
  | single typeName _ =>
    .encodeParam :: ((ElementaryType.ofText? typeName).bind ElementaryType.symbol?).toList
      ++ (form typeName).symbols
  | struct _ => [.encodeParam]
  | each _ _ _ inner => .encodeParam :: inner.symbols

/-- What there is to warn of. -/
def warnings : Encoding → List Warning
  | single typeName _ =>
    if (ElementaryType.ofText? typeName).isNone then [.unknownType typeName] else []
  | struct _ => []
  | each _ _ _ inner => inner.warnings

/-- The variable of the nested function at a level. -/
def itemName (level : Nat) : String :=
  "s" ++ toString level

end Encoding

/-- Encode a value of the given shape; nested functions are numbered from `level` on. -/
def TypeShape.encoding (value : String) (level : Nat) : TypeShape → Encoding
  | elementary name => .single name value
  | tuple => .struct value
  | array element size =>
    .each ((array element size).canonicalText Encoding.tupleSignature) value
      (Encoding.itemName level) (element.encoding (Encoding.itemName level) (level + 1))

/-- Encode a parameter that the given expression denotes. -/
def Parameter.encode (p : Parameter) (value : String) : Encoding :=
  p.shape.encoding value 0

end AbiBindings
