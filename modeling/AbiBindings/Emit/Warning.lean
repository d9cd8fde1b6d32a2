import AbiBindings.Text.Quoted

/-!
# Warnings

Emission never fails. Where a type cannot be mapped the emitted code says `unknown`, and a warning
tells why.
-/

namespace AbiBindings

/-- Why a type of emitted code is unknown. -/
inductive Warning where
  /-- No elementary type has the name. -/
  | unknownType (name : String)
  /-- A tuple has no struct class. -/
  | unregisteredStruct (typeText : String) (internalType : Option String)
  /-- The outputs of a function have no struct class. -/
  | unregisteredOutputs (function : String)
  deriving DecidableEq

/-- A text that may be missing, as log messages show it. -/
def optionalQuoted : Option String → String
  | none => "None"
  | some s => "Some(" ++ Text.quoted s ++ ")"

/-- The wording of a warning. -/
def Warning.message : Warning → String
  | unknownType name => "Unknown ABI type: " ++ name
  | unregisteredStruct typeText internalType =>
    "No struct class registered for " ++ typeText ++ " (internal type "
      ++ optionalQuoted internalType ++ ")"
  | unregisteredOutputs function => "No outputs struct registered for function " ++ function

end AbiBindings
