import AbiBindings.Emit.LibrarySymbol
import AbiBindings.Text.Letters

/-!
# Scopes of emitted names

Emitted code has four kinds of place in which a name from an ABI can appear. Each has names that
the code itself introduces there, and a suffix for names that have to give way. Places that
declare variables also keep clear of the target language's keywords and of the support library;
the variables of nested functions, `item0`, `item1`, … and `s0`, `s1`, …, are kept clear everywhere.
-/

namespace AbiBindings

/-- A kind of place in which a name is declared. -/
inductive NameScope where
  /-- A parameter of a method. -/
  | parameter
  /-- A variable in the body of a method. -/
  | bodyLocal
  /-- A field of a class. -/
  | property
  /-- A method of a contract class. -/
  | method
  deriving DecidableEq

namespace NameScope

/-- What is put behind a name that has to give way. -/
def suffix : NameScope → String
  | parameter => "_param"
  | bodyLocal => "_var"
  | property => "_prop"
  | method => "_safe"

/-- The names that emitted code itself introduces. -/
def reserved : NameScope → List String
  | parameter => ["response", "decodedResponse", "encodedData", "builder", "feeAmount"]
  | bodyLocal => ["data", "topics", "parts", "decodedData", "response", "decodedResponse"]
  | property =>
    ["constructor", "parse", "decode", "toEvmEncodeParams", "address", "chainId", "timestamp",
     "feeAmount", "TOPIC"]
  | method => ["constructor", "address", "chainId", "timestamp", "feeAmount"]

/-- Whether names of this scope are variables. -/
def declaresVariables : NameScope → Bool
  | parameter | bodyLocal => true
  | property | method => false

end NameScope

/-- Words of the target language that cannot name a variable. -/
def keywords : List String :=
  ["break", "case", "catch", "class", "const", "continue", "default", "delete", "do", "else",
   "enum", "export", "extends", "false", "finally", "for", "function", "if", "import", "in",
   "instanceof", "let", "new", "null", "return", "super", "switch", "this", "throw", "true",
   "try", "type", "typeof", "var", "void", "while"]

/-- Whether a name is the stem followed by decimal digits, of which there is at least one. -/
def isStemWithDigits (stem : String) (name : String) : Bool :=
  let digits := name.toList.drop stem.length
  stem.toList.isPrefixOf name.toList && !digits.isEmpty && digits.all Text.isPatternDigit

/-- The names that nested functions of emitted code give their parameters. -/
def isNestedParameter (name : String) : Bool :=
  isStemWithDigits "item" name || isStemWithDigits "s" name

/-- Whether a name cannot stand in a scope. -/
def NameScope.conflicts (scope : NameScope) (name : String) : Bool :=
  scope.reserved.contains name
    || (scope.declaresVariables && (keywords.contains name || LibrarySymbol.isExported name))
    || isNestedParameter name

end AbiBindings
