import AbiBindings.Error
import AbiBindings.Toml.Reader
import AbiBindings.Workspace.PathText

/-!
# Settings

What a run is to do: which contracts to bind, where their interfaces are, and where and how the
bindings are written. Settings are read from TOML or JSON, where everything may be left out and
unknown names are passed over. The contracts are kept in the order of their names, each once.
-/

namespace AbiBindings

/-- The module that bindings import the library from by default. -/
def defaultLibrary : String :=
  "@mimicprotocol/lib-ts"

/-- The settings of a run. -/
structure Settings where
  outputDirectory : String := "./src/types"
  library : String := defaultLibrary
  extension : String := "ts"
  /-- The paths of the interfaces by the contracts' names. -/
  contracts : List (String × String) := []
  /-- Whether files of earlier runs are removed first. -/
  clean : Bool := false
  /-- Whether bindings are printed instead of written. -/
  dryRun : Bool := false

/-- Give a contract a path, in place of an earlier one. -/
def insertContract (name path : String) : List (String × String) → List (String × String)
  | [] => [(name, path)]
  | (n, p) :: rest =>
    if name < n then (name, path) :: (n, p) :: rest
    else if name = n then (name, path) :: rest
    else (n, p) :: insertContract name path rest

namespace Settings

/-! ## Validity -/

/-- Whether a text can name a contract: letters, digits, `_` and `$` of ASCII, of which no digit
comes first. -/
def isContractName (name : String) : Bool :=
  match name.toList with
  | [] => false
  | c :: rest =>
    (c.isAlpha || c == '_' || c == '$')
      && rest.all fun d => d.isAlphanum || d == '_' || d == '$'

/-- Refuse a text that cannot name a contract. -/
def checkContractName (name : String) : Except ConfigFault Unit :=
  if isContractName name then .ok () else .error (.badContractName name)

/-- Whether a text can be the extension of the files written. -/
def isExtension (extension : String) : Bool :=
  !extension.isEmpty && extension.toList.all fun c => c != '.' && c != '/' && c != '\\'

/-- Refuse settings that name no contract, or a contract or an extension in a form that is not
allowed. -/
def validate (s : Settings) : Except ConfigFault Unit := do
  if s.contracts.isEmpty then throw .noContracts
  s.contracts.forM fun (name, _) => checkContractName name
  if !isExtension s.extension then throw (.badExtension s.extension)

/-! ## Paths -/

/-- The file that the bindings of a contract are written to. -/
def outputPath (s : Settings) (contract : String) : String :=
  PathText.join s.outputDirectory (contract ++ "." ++ s.extension)

/-- Take relative paths from a base. -/
def relativeTo (s : Settings) (base : String) : Settings :=
  { s with
    outputDirectory := PathText.join base s.outputDirectory
    contracts := s.contracts.map fun (name, path) => (name, PathText.join base path) }

/-! ## Reading -/

/-- The value of a setting. -/
inductive Value where
  | text (s : String)
  | flag (b : Bool)
  /-- Texts by their names. -/
  | texts (members : List (String × String))
  | other

/-- The names of the settings, in the order in which a list of them gives their values. -/
def names : List String :=
  ["output_dir", "library_module", "file_extension", "abis", "clean", "dry_run"]

/-- The text that a setting has. -/
def textValue (value? : String → Option Value) (name default : String) : Except FormFault String :=
  match value? name with
  | none => .ok default
  | some (.text s) => .ok s
  | some _ => .error (.setting name)

/-- The truth value that a setting has. -/
def flagValue (value? : String → Option Value) (name : String) (default : Bool) :
    Except FormFault Bool :=
  match value? name with
  | none => .ok default
  | some (.flag b) => .ok b
  | some _ => .error (.setting name)

/-- Settings from the values that are given; the others keep their defaults. -/
def ofValues (value? : String → Option Value) : Except FormFault Settings := do
  let default : Settings := {}
  return {
    outputDirectory := ← textValue value? "output_dir" default.outputDirectory
    library := ← textValue value? "library_module" default.library
    extension := ← textValue value? "file_extension" default.extension
    contracts := ← match value? "abis" with
      | none => .ok default.contracts
      | some (.texts members) =>
        .ok (members.foldl (fun all (name, path) => insertContract name path all) [])
      | some _ => .error (.setting "abis")
    clean := ← flagValue value? "clean" default.clean
    dryRun := ← flagValue value? "dry_run" default.dryRun }

/-- The members of a table whose values are all texts. -/
def textMembers {α : Type} (text? : α → Option String) (members : List (String × α)) : Value :=
  match members.mapM fun (name, v) => (text? v).map fun s => (name, s) with
  | some texts => .texts texts
  | none => .other

/-- The value of a setting that is given as JSON. -/
def valueOfJson : Json → Value
  | .string s => .text s
  | .bool b => .flag b
  | .object members => textMembers Json.string? members
  | _ => .other

/-- Settings from JSON: an object of settings, or a list of their values in order, which may end
early. -/
def ofJson (v : Json) : Except FormFault Settings :=
  match v with
  | .object members => ofValues fun name => (Json.lastMember? name members).map valueOfJson
  | .array items =>
    if names.length < items.length then .error (.setting "settings")
    else ofValues fun name => ((names.zip items).lookup name).map valueOfJson
  | _ => .error (.setting "settings")

/-- The one name under which a moment stands where a table is read. -/
def momentName : String :=
  "$__toml_private_datetime"

/-- The value of a setting that is given as TOML. A moment is also a table of one text. -/
def valueOfToml : Toml → Value
  | .string s => .text s
  | .bool b => .flag b
  | .moment text => .texts [(momentName, text)]
  | .table members =>
    textMembers (fun
      | .string s => some s
      | _ => none) members
  | _ => .other

/-- Settings from the text of a TOML document. -/
def ofToml (text : String) : Except FormFault Settings := do
  let members ← (Toml.parse text).mapError FormFault.toml
  ofValues fun name => (Toml.member? name members).map valueOfToml

end Settings

end AbiBindings
