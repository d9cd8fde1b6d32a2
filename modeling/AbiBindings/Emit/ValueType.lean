import AbiBindings.Emit.Warning
import AbiBindings.Struct.Registry

/-!
# Types of emitted code

A value has the type of an elementary ABI type, the class of a struct, or the unknown type; around
it stand as many array marks as the ABI type has levels. Sizes of arrays are not kept.
-/

namespace AbiBindings

/-- The mark of one array level. -/
def arrayMark : String :=
  "[]"

/-- A type name with array marks. -/
def markedName (name : String) (depth : Nat) : String :=
  name ++ "".intercalate (List.replicate depth arrayMark)

/-- Take the array marks off the end of a type name, given the last character first; the marks are
counted from `depth` on. -/
def splitMarks (depth : Nat) : List Char → String × Nat
  | ']' :: '[' :: rest => splitMarks (depth + 1) rest
  | s => (String.ofList s.reverse, depth)

/-- A type name without its array marks, and their number. -/
def unmarkedName (s : String) : String × Nat :=
  splitMarks 0 s.toList.reverse

/-- A type of emitted code that is no array. -/
inductive ValueBase where
  | elementary (type : ElementaryType)
  | struct (className : String)
  | unknown (cause : Warning)

namespace ValueBase

/-- The name of the type. -/
def name : ValueBase → String
  | elementary type => type.text
  | struct className => className
  | unknown _ => "unknown"

/-- The library symbols that the name refers to. -/
def symbols : ValueBase → List LibrarySymbol
  | elementary type => type.symbol?.toList
  | _ => []

/-- What there is to warn of. -/
def warnings : ValueBase → List Warning
  | unknown cause => [cause]
  | _ => []

end ValueBase

/-- A type of emitted code. -/
structure ValueType where
  base : ValueBase
  depth : Nat := 0

namespace ValueType

/-- The type as it is written. -/
def text (t : ValueType) : String :=
  markedName t.base.name t.depth

/-- The library symbols that the type refers to. -/
def symbols (t : ValueType) : List LibrarySymbol :=
  t.base.symbols

/-- What there is to warn of. -/
def warnings (t : ValueType) : List Warning :=
  t.base.warnings

/-- The type of one elementary type's values. -/
def ofElementary (type : ElementaryType) : ValueType :=
  { base := .elementary type }

end ValueType

/-- The type of the values inside all array levels of a parameter. -/
def StructRegistry.valueBase (r : StructRegistry) (p : Parameter) : ValueBase :=
  match p.shape.innermost with
  | .elementary name =>
    match ElementaryType.ofText? name with
    | some type => .elementary type
    | none => .unknown (.unknownType name)
  | _ =>
    match r.classFor? p with
    | some className => .struct className
    | none =>
      let inner := if p.isArray then p.innermost else p
      .unknown (.unregisteredStruct inner.typeText inner.internalType)

/-- The type of a parameter's values. -/
def StructRegistry.valueType (r : StructRegistry) (p : Parameter) : ValueType :=
  { base := r.valueBase p, depth := p.shape.depth }

/-- The type of what a function returns: a truth value where it has no outputs, the type of a
single output, or the struct of several. -/
def StructRegistry.returnType (r : StructRegistry) (f : ContractFunction) : ValueType :=
  match f.outputs with
  | [] => .ofElementary .bool
  | [output] => r.valueType output
  | _ =>
    match r.outputsClass? f with
    | some className => { base := .struct className }
    | none => { base := .unknown (.unregisteredOutputs f.name) }

end AbiBindings
