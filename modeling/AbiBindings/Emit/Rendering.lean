import AbiBindings.Emit.SourceFile
import AbiBindings.Error

/-!
# Rendering

Classes are written through the named templates, from loose data that hold a value under the name
of each slot. A template that is not known and a slot that the data leave out are faults, and the
first one ends the generation of a file.
-/

namespace AbiBindings

/-- Loose data that hold values for some slots. -/
def Slot.data (values : List (Slot × Json)) : Json :=
  .object (values.map fun (s, v) => (s.name, v))

/-- The data of a contract's class. -/
def ContractClass.data (c : ContractClass) : Json :=
  Slot.data
    [(.className, .string c.name),
     (.methods, .string ("".intercalate (c.methods.map fun m => "\n\n" ++ m.text)))]

/-- The data of a struct's class; the number of components is a number. -/
def StructClass.data (c : StructClass) : Json :=
  Slot.data
    [(.className, .string c.name),
     (.fields, .string ("\n".intercalate
       (c.fields.map fun f => "  readonly " ++ f.field ++ ": " ++ f.type.text))),
     (.constructorParameters, .string (", ".intercalate
       (c.fields.map fun f => f.variableName ++ ": " ++ f.type.text))),
     (.assignments, .string ("\n".intercalate
       (c.fields.map fun f => "    this." ++ f.field ++ " = " ++ f.variableName))),
     (.componentCount, .number (.whole c.fields.length)),
     (.parseLines, .string ("\n".intercalate (c.fields.map fun f =>
       "    const " ++ f.variableName ++ ": " ++ f.type.text ++ " = " ++ f.decoding.text))),
     (.constructorArguments, .string (", ".intercalate (c.fields.map StructField.variableName))),
     (.encodings, .string ("\n".intercalate
       (c.fields.map fun f => "      " ++ f.encoding.text ++ ",")))]

/-- The data of an event's class. -/
def EventClass.data (c : EventClass) : Json :=
  let topic := match c.topic? with
    | some hash => "  static readonly TOPIC: string = '" ++ hash ++ "'\n"
    | none => ""
  Slot.data
    [(.className, .string c.name),
     (.members, .string (topic ++ "".intercalate
       (c.fields.map fun f => "  readonly " ++ f.field ++ ": " ++ f.type.text ++ "\n"))),
     (.constructorParameters, .string (", ".intercalate
       (c.fields.map fun f => f.variableName ++ ": " ++ f.type.text))),
     (.assignments, .string ("".intercalate
       (c.fields.map fun f => "    this." ++ f.field ++ " = " ++ f.variableName ++ "\n"))),
     (.decodeLines, .string ("\n".intercalate (c.topicLines ++ c.dataLines))),
     (.constructorArguments, .string (", ".intercalate (c.fields.map EventField.variableName)))]

/-- The text of a file, with each class rendered in turn. The import statement comes first, where
there is one. -/
def SourceFile.render (f : SourceFile) : Except TemplateFault String := do
  let contract ← renderTemplate Template.contractClass.name f.contract.data
  let structs ← f.structs.mapM fun k => renderTemplate Template.structClass.name k.data
  let events ← f.events.mapM fun k => renderTemplate Template.eventClass.name k.data
  let classes := contract :: structs ++ events
  let sections := if f.imports.render.isEmpty then classes else f.imports.render :: classes
  return "\n\n".intercalate sections ++ "\n"

/-- Generate the text of a contract's bindings. -/
def Contract.generate (c : Contract) (library name : String) : Except Error String :=
  if c.isEmpty then .ok ""
  else (c.bindings library name).render.mapError Error.template

end AbiBindings
