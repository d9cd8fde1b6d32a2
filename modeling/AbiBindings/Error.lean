import AbiBindings.Abi.Reading
import AbiBindings.Emit.Template
import AbiBindings.Json.Reader
import AbiBindings.Toml.Value
import AbiBindings.Workspace.IoFault

/-!
# Errors

Everything that can stop a run, by its cause. There are five kinds of error; each has a heading
that comes before the wording of the cause.
-/

namespace AbiBindings

/-- What is wrong with the settings of a run or with the files they name. -/
inductive ConfigFault where
  | noContracts
  | badContractName (name : String)
  | badExtension (extension : String)
  /-- An argument that should pair a contract with a path has no equals sign. -/
  | notAPair (argument : String)
  | noPath (contract : String)
  | settingsUnreadable (path : String) (cause : IoFault)
  | contractUnreadable (path : String) (cause : IoFault)
  | contractMissing (path : String)
  | existenceUnknown (cause : IoFault)
  /-- A file that is there cannot be read when the inputs are checked. -/
  | inputUnreadable (cause : IoFault)
  | notJson (path : String) (cause : Json.Fault)
  | noOutputDirectory (cause : IoFault)
  deriving DecidableEq

/-- The wording of a fault. -/
def ConfigFault.message : ConfigFault → String
  | noContracts => "No ABIs configured"
  | badContractName name =>
    "Invalid contract name '" ++ name
      ++ "': use letters, digits, '_' or '$', not starting with a digit"
  | badExtension extension => "Invalid file extension '" ++ extension ++ "'"
  | notAPair argument => "Expected NAME=PATH, got '" ++ argument ++ "'"
  | noPath contract => "Missing ABI path for contract " ++ contract
  | settingsUnreadable path cause =>
    "Failed to read config file " ++ path ++ ": " ++ cause.message
  | contractUnreadable path cause => "Failed to read ABI file " ++ path ++ ": " ++ cause.message
  | contractMissing path => "ABI file not found: " ++ path
  | existenceUnknown cause => "Failed to check file existence: " ++ cause.message
  | inputUnreadable cause => "Failed to read ABI file: " ++ cause.message
  | notJson path cause => "Invalid JSON in ABI file " ++ path ++ ": " ++ cause.message
  | noOutputDirectory cause => "Failed to create output directory: " ++ cause.message

/-- Why a text or a value is not what it should be the form of. -/
inductive FormFault where
  | json (cause : Json.Fault)
  | toml (cause : Toml.Fault)
  /-- A setting has a value of the wrong type. -/
  | setting (name : String)
  /-- A value is no stored contract. -/
  | storedContract
  deriving DecidableEq

/-- The wording of a fault. -/
def FormFault.message : FormFault → String
  | json cause => cause.message
  | toml cause => cause.message
  | setting name => "invalid value for " ++ name
  | storedContract => "not the stored form of a contract"

/-- The kinds of error. -/
inductive ErrorKind where
  | config
  | abi
  | io
  | serialization
  | template
  deriving DecidableEq

/-- An error of a kind as it is shown. -/
def ErrorKind.message (kind : ErrorKind) (detail : String) : String :=
  let heading := match kind with
    | config => "Configuration error: "
    | abi => "Invalid ABI: "
    | io => "I/O error: "
    | serialization => "Serialization error: "
    | template => "Template error: "
  heading ++ detail

/-- What can stop a run. -/
inductive Error where
  | config (fault : ConfigFault)
  | abi (fault : AbiFault)
  | io (fault : IoFault)
  | serialization (fault : FormFault)
  | template (fault : TemplateFault)

namespace Error

/-- The kind of an error. -/
def kind : Error → ErrorKind
  | config _ => .config
  | abi _ => .abi
  | io _ => .io
  | serialization _ => .serialization
  | template _ => .template

/-- The wording of the cause. -/
def detail : Error → String
  | config fault => fault.message
  | abi fault => fault.message
  | io fault => fault.message
  | serialization fault => fault.message
  | template fault => fault.message

/-- An error as it is shown. -/
def message (e : Error) : String :=
  e.kind.message e.detail

end Error

/-- The contract that a text declares. -/
def Contract.ofText (text : String) : Except Error Contract := do
  let v ← (Json.parse text).mapError fun fault => Error.serialization (.json fault)
  (Contract.ofJson v).mapError Error.abi

end AbiBindings
