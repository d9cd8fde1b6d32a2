import AbiBindings.Names.Fresh
import AbiBindings.Names.Scope

/-!
# Resolution of names

A list of names is made fit for a scope: a name that conflicts there gets the suffix of the scope,
and one that is in use already gets the suffix and the first free number. Neither the suffix nor
the number can bring a conflict back, so no name is tested twice.
-/

namespace AbiBindings

namespace NameScope

/-- The name as it is where it does not conflict, otherwise with the suffix. -/
def escape (scope : NameScope) (name : String) : String :=
  if scope.conflicts name then name ++ scope.suffix else name

/-- The names tried in turn for one name: the escaped one, then the name itself with the suffix
and the numbers from one. -/
def candidate (scope : NameScope) (name : String) : Nat → String
  | 0 => scope.escape name
  | k + 1 => name ++ scope.suffix ++ toString (k + 1)

/-- Resolve the names that follow those in use. -/
def resolveAfter (scope : NameScope) (used : List String) : List String → List String
  | [] => []
  | name :: rest =>
    let chosen := firstFree used (scope.candidate name)
    chosen :: resolveAfter scope (used ++ [chosen]) rest

/-- Names without conflict and without repetition, one for each given name and in their order. -/
def resolve (scope : NameScope) (names : List String) : List String :=
  scope.resolveAfter [] names

end NameScope

end AbiBindings
