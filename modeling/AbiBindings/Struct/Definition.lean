import AbiBindings.Abi.Signature
import AbiBindings.Names.Named

/-!
# Struct definitions

What is known of one struct class: its name in emitted code, the name the interface declares for
it, and its fields. A list of components fits a definition when the canonical types agree one by
one and no two names contradict each other.
-/

namespace AbiBindings

/-- A struct that gets a class of its own. -/
structure StructDefinition where
  className : String
  /-- The name that the interface declares. -/
  structName : Option String
  fields : List NamedParameter

/-- Whether two parameters can be the same component: their canonical types agree, and so do their
names unless one of them is missing. -/
def Parameter.agrees (known candidate : Parameter) : Bool :=
  known.canonicalType == candidate.canonicalType
    && (known.name == candidate.name || known.name == "" || candidate.name == "")

/-- Whether a list of components fits the definition. -/
def StructDefinition.fits (d : StructDefinition) (components : List Parameter) : Bool :=
  d.fields.length == components.length
    && (d.fields.zip components).all fun (known, candidate) => known.parameter.agrees candidate

/-- The definition of a struct with the given components. -/
def StructDefinition.ofComponents (className : String) (structName : Option String)
    (components : List Parameter) : StructDefinition :=
  { className, structName, fields := NameScope.property.nameParameters "field" components }

end AbiBindings
