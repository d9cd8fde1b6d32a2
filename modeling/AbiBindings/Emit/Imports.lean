import AbiBindings.Emit.LibrarySymbol

/-!
# Imports

The symbols that a file takes from the support library. They are collected in any order and with
repetitions; the statement names each once, in the order of `LibrarySymbol.all`.
-/

namespace AbiBindings

/-- The symbols imported from one module. -/
structure Imports where
  /-- The module named in the statement. -/
  module : String
  /-- The symbols asked for so far. -/
  symbols : List LibrarySymbol := []

namespace Imports

/-- Ask for one more symbol. -/
def add (i : Imports) (s : LibrarySymbol) : Imports :=
  { i with symbols := i.symbols ++ [s] }

/-- Ask for several more symbols. -/
def addAll (i : Imports) (more : List LibrarySymbol) : Imports :=
  { i with symbols := i.symbols ++ more }

/-- The names imported, each once and in order. -/
def sortedNames (i : Imports) : List String :=
  (LibrarySymbol.all.filter i.symbols.contains).map LibrarySymbol.name

/-- The import statement; nothing where no symbol was asked for. -/
def render (i : Imports) : String :=
  if i.symbols.isEmpty then ""
  else "import \x7b " ++ ", ".intercalate i.sortedNames ++ " \x7d from '" ++ i.module ++ "'"

end Imports

end AbiBindings
