import AbiBindings.Emit.Method
import AbiBindings.Emit.Template

/-!
# Contract classes

The class of a contract has one method for each function, in order. Method names are resolved
together, so that overloads and names of the class's own members are told apart.
-/

namespace AbiBindings

/-- The class of a contract. -/
structure ContractClass where
  name : String
  methods : List Method

namespace ContractClass

/-- The class as it is written. -/
def text (c : ContractClass) : String :=
  Template.contractClass.fill fun
    | .className => c.name
    | .methods => "".intercalate (c.methods.map fun m => "\n\n" ++ m.text)
    | _ => ""

/-- The library symbols that the class asks for. -/
def symbols (c : ContractClass) : List LibrarySymbol :=
  [.address, .chainId, .tokenAmount] ++ c.methods.flatMap Method.symbols

/-- What there is to warn of. -/
def warnings (c : ContractClass) : List Warning :=
  c.methods.flatMap Method.warnings

end ContractClass

/-- The class of a contract under a given name. -/
def StructRegistry.contractClass (r : StructRegistry) (c : Contract) (name : String) :
    ContractClass where
  name
  methods := List.zipWith r.method c.functions
    (NameScope.method.resolve (c.functions.map ContractFunction.name))

end AbiBindings
