import AbiBindings.Abi.Parameter
import AbiBindings.Names.Resolution

/-!
# Named parameters

Parameters with the names that they get in a scope. A parameter that an interface leaves without a
name is called by a stem and its position before the names are resolved.
-/

namespace AbiBindings

/-- A parameter and the name chosen for it. -/
structure NamedParameter where
  name : String
  parameter : Parameter

/-- The parameter's own name, or the stem and the position where it has none. -/
def Parameter.nameOr (p : Parameter) (stem : String) (position : Nat) : String :=
  if p.name = "" then stem ++ toString position else p.name

/-- Name parameters for a scope, in their order. -/
def NameScope.nameParameters (scope : NameScope) (stem : String) (parameters : List Parameter) :
    List NamedParameter :=
  List.zipWith NamedParameter.mk
    (scope.resolve (parameters.mapIdx fun position p => p.nameOr stem position)) parameters

end AbiBindings
