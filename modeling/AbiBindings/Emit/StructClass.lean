import AbiBindings.Emit.Decoding
import AbiBindings.Emit.Encoding
import AbiBindings.Emit.Template

/-!
# Struct classes

The class of a struct has a field for each component. `parse` reads the components from a text
that lists them, each into a variable of its own; the constructor takes these variables in order;
`toEvmEncodeParams` encodes the fields in the same order.
-/

namespace AbiBindings

/-- A field of a struct class. -/
structure StructField where
  field : String
  /-- The variable that stands for the field in the constructor and while parsing. -/
  variableName : String
  type : ValueType
  decoding : Decoding
  encoding : Encoding

/-- The class of a struct. -/
structure StructClass where
  name : String
  fields : List StructField

namespace StructClass

/-- The class as it is written. -/
def text (c : StructClass) : String :=
  Template.structClass.fill fun
    | .className => c.name
    | .fields =>
      "\n".intercalate (c.fields.map fun f => "  readonly " ++ f.field ++ ": " ++ f.type.text)
    | .constructorParameters =>
      ", ".intercalate (c.fields.map fun f => f.variableName ++ ": " ++ f.type.text)
    | .assignments =>
      "\n".intercalate (c.fields.map fun f => "    this." ++ f.field ++ " = " ++ f.variableName)
    | .componentCount => toString c.fields.length
    | .parseLines =>
      "\n".intercalate (c.fields.map fun f =>
        "    const " ++ f.variableName ++ ": " ++ f.type.text ++ " = " ++ f.decoding.text)
    | .constructorArguments => ", ".intercalate (c.fields.map StructField.variableName)
    | .encodings => "\n".intercalate (c.fields.map fun f => "      " ++ f.encoding.text ++ ",")
    | _ => ""

/-- The library symbols that the class asks for. -/
def symbols (c : StructClass) : List LibrarySymbol :=
  [.parseCsv, .encodeParam]
    ++ c.fields.flatMap fun f => f.type.symbols ++ f.decoding.symbols ++ f.encoding.symbols

/-- What there is to warn of. -/
def warnings (c : StructClass) : List Warning :=
  c.fields.flatMap fun f => f.type.warnings ++ f.encoding.warnings

end StructClass

/-- The expression for one of the parts that a text was split into. -/
def partText (index : Nat) : String :=
  "parts[" ++ toString index ++ "]"

/-- The class of a struct definition. -/
def StructRegistry.structClass (r : StructRegistry) (d : StructDefinition) : StructClass where
  name := d.className
  fields :=
    (d.fields.zip (NameScope.bodyLocal.resolve (d.fields.map NamedParameter.name))).mapIdx
      fun index (p, variableName) =>
        let type := r.valueType p.parameter
        { field := p.name
          variableName
          type
          decoding := r.decode type (partText index)
          encoding := p.parameter.encode ("this." ++ p.name) }

/-- The classes of all definitions in order. -/
def StructRegistry.structClasses (r : StructRegistry) : List StructClass :=
  r.definitions.map r.structClass

end AbiBindings
