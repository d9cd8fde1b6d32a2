import AbiBindings.Emit.ContractClass
import AbiBindings.Emit.EventClass
import AbiBindings.Emit.Imports

/-!
# Source files

The bindings of one contract: the import statement, the class of the contract, the classes of its
structs and the classes of its events, with a blank line between any two. Everything that the
classes refer to is imported, and no class takes the name of another or of a library symbol.
-/

namespace AbiBindings

/-- The bindings of one contract. -/
structure SourceFile where
  /-- The module that the library is imported from. -/
  library : String
  contract : ContractClass
  structs : List StructClass
  events : List EventClass

namespace SourceFile

/-- The library symbols that the file asks for. -/
def symbols (f : SourceFile) : List LibrarySymbol :=
  f.contract.symbols ++ f.structs.flatMap StructClass.symbols ++ f.events.flatMap EventClass.symbols

/-- The imports of the file. -/
def imports (f : SourceFile) : Imports :=
  { module := f.library, symbols := f.symbols }

/-- What there is to warn of. -/
def warnings (f : SourceFile) : List Warning :=
  f.contract.warnings ++ f.structs.flatMap StructClass.warnings
    ++ f.events.flatMap EventClass.warnings

/-- The file as it is written. -/
def text (f : SourceFile) : String :=
  "\n\n".intercalate (f.imports.render :: f.contract.text :: f.structs.map StructClass.text
    ++ f.events.map EventClass.text) ++ "\n"

end SourceFile

namespace Contract

/-- The structs of a contract that is bound under a given name: neither that name nor one of the
library's is taken by a class. -/
def structs (c : Contract) (name : String) : StructRegistry :=
  ((({} : StructRegistry).reserve name).reserveAll LibrarySymbol.names).extract c

/-- The bindings of a contract under a given name. -/
def bindings (c : Contract) (library name : String) : SourceFile :=
  let r := c.structs name
  { library
    contract := r.contractClass c name
    structs := r.structClasses
    events := r.eventClasses c.events }

/-- The text of a contract's bindings; nothing where there is nothing to bind. -/
def bindingsText (c : Contract) (library name : String) : String :=
  if c.isEmpty then "" else (c.bindings library name).text

/-- What there is to warn of in a contract's bindings. -/
def bindingsWarnings (c : Contract) (library name : String) : List Warning :=
  if c.isEmpty then [] else (c.bindings library name).warnings

end Contract

end AbiBindings
