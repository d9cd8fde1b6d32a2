import AbiBindings.Struct.Declared
import AbiBindings.Struct.Definition

/-!
# The struct registry

Every struct that a contract mentions is defined once, in the order in which the structs are met:
functions before events, the inputs of a function before its outputs, a struct before the structs
in its components. A struct that fits a definition is not defined again. Class names are taken in
that order too, and each is told apart from all taken before.
-/

namespace AbiBindings

/-- The structs defined so far. -/
structure StructRegistry where
  definitions : List StructDefinition := []
  /-- The class names in use, without repetitions: those reserved and those of the definitions. -/
  taken : List String := []
  /-- How many structs have been defined without a declared name. -/
  anonymous : Nat := 0

namespace StructRegistry

/-- Keep a name free of struct classes. -/
def reserve (r : StructRegistry) (name : String) : StructRegistry :=
  if r.taken.contains name then r else { r with taken := r.taken ++ [name] }

/-- Keep several names free of struct classes. -/
def reserveAll (r : StructRegistry) (names : List String) : StructRegistry :=
  names.foldl reserve r

/-! ## Look-up -/

/-- The definition that a parameter's struct fits; array levels do not matter. Definitions with
the parameter's own struct name come before all others. -/
def find? (r : StructRegistry) (p : Parameter) : Option StructDefinition :=
  if p.isTuple then
    let named := r.definitions.filter fun d => p.structName?.isSome && d.structName == p.structName?
    (named.find? (·.fits p.components)) <|> r.definitions.find? (·.fits p.components)
  else none

/-- The class of a parameter's struct. -/
def classFor? (r : StructRegistry) (p : Parameter) : Option String :=
  (r.find? p).map StructDefinition.className

/-- The class that holds the outputs of a function. -/
def outputsClass? (r : StructRegistry) (f : ContractFunction) : Option String :=
  r.classFor? f.outputsParameter

/-- Whether a name is that of a struct class. -/
def isClass (r : StructRegistry) (name : String) : Bool :=
  r.definitions.any (·.className == name)

/-! ## Registration -/

/-- Whether a parameter holds a struct that has components and no definition yet. -/
def lacks (r : StructRegistry) (p : Parameter) : Bool :=
  p.isTuple && !p.components.isEmpty && (r.find? p).isNone

/-- Define the struct of a parameter. Without a declared name it is called by a number. -/
def define (r : StructRegistry) (p : Parameter) : StructRegistry :=
  let base := p.structName?.getD ("Tuple" ++ toString r.anonymous)
  let className := uniqueName r.taken base
  { definitions :=
      r.definitions ++ [StructDefinition.ofComponents className p.structName? p.components]
    taken := r.taken ++ [className]
    anonymous := if p.structName?.isSome then r.anonymous else r.anonymous + 1 }

mutual

/-- Define the struct of a parameter, and then those of its components, unless it is known. -/
def register (r : StructRegistry) : Parameter → StructRegistry
  | ⟨name, typeText, internalType, components, indexed⟩ =>
    let p : Parameter := ⟨name, typeText, internalType, components, indexed⟩
    if r.lacks p then registerAll (r.define p) components else r

/-- Register the structs of several parameters in turn. -/
def registerAll (r : StructRegistry) : List Parameter → StructRegistry
  | [] => r
  | p :: rest => registerAll (register r p) rest

end

/-- The parameters of a function that can hold structs, in the order of registration. -/
def structParameters (f : ContractFunction) : List Parameter :=
  f.inputs ++ f.outputs ++ (if f.hasOutputsStruct then [f.outputsParameter] else [])

/-- The parameters of an event that can hold structs: of the values that reach the topics only as
a hash no struct is needed. -/
def eventParameters (e : ContractEvent) : List Parameter :=
  e.inputs.filter fun p => !p.isHashedTopic

/-- Define every struct of a contract. -/
def extract (r : StructRegistry) (c : Contract) : StructRegistry :=
  r.registerAll (c.functions.flatMap structParameters ++ c.events.flatMap eventParameters)

end StructRegistry

end AbiBindings
