import AbiBindings.Abi.Contract
import AbiBindings.Abi.Elementary
import AbiBindings.Text.Letters
import AbiBindings.Text.Blank
import AbiBindings.Text.PascalCase

/-!
# Declared names of structs

An internal type such as `struct Pool.Key[]` names the struct behind a tuple: the word after the
keyword, or the word after the point where a library's name comes first. The outputs of a function
with several of them have no internal type; they form a struct that is named after the function.
-/

namespace AbiBindings

/-- The name that follows the keyword at the beginning of a text. -/
def nameAfterKeyword? (s : List Char) : Option (List Char) :=
  (afterStem? "struct" s).bind fun rest =>
    let words := rest.dropWhile Text.isBlank
    let first := words.takeWhile Text.isWordChar
    let second := match words.dropWhile Text.isWordChar with
      | '.' :: more => more.takeWhile Text.isWordChar
      | _ => []
    if words.length = rest.length ∨ first.isEmpty then none
    else if second.isEmpty then some first
    else some second

/-- The struct name in an internal type: the one after the first keyword that has a name. -/
def structNameIn? : List Char → Option (List Char)
  | [] => none
  | c :: rest => nameAfterKeyword? (c :: rest) <|> structNameIn? rest

/-- The name under which the interface declares the struct inside a parameter. -/
def Parameter.structName? (p : Parameter) : Option String :=
  p.internalType.bind fun t =>
    (structNameIn? (TypeText.innermostOf t.toList)).map String.ofList

/-- The name of the struct that holds the outputs of a function: the function's name in Pascal
case, as far as it consists of letters, numbers and underscores. -/
def outputsStructName (function : String) : String :=
  let stem := Text.pascalCase (function.toList.filter fun c => Text.isAlphanumeric c || c == '_')
  (if stem.isEmpty then "UnnamedFunction" else String.ofList stem) ++ "Outputs"

/-- The outputs of a function as one struct. -/
def ContractFunction.outputsParameter (f : ContractFunction) : Parameter :=
  let name := outputsStructName f.name
  { name
    typeText := TypeShape.tupleText
    internalType := some ("struct " ++ name)
    components := f.outputs }

/-- Whether the outputs of a function are put together into a struct. -/
def ContractFunction.hasOutputsStruct (f : ContractFunction) : Bool :=
  1 < f.outputs.length

end AbiBindings
