import AbiBindings.Command.Arguments
import AbiBindings.Text.Blank
import AbiBindings.Workspace.Generation

/-!
# The command that generates bindings

The settings come from a file, if one is named, and from the arguments, which come before the
file. Every interface is checked to be there and to be JSON before the run begins.
-/

namespace AbiBindings

variable {m : Type → Type} [Monad m] [Access m]

/-- The contract and the path that an argument pairs: the texts before and behind its first equals
sign, without white space around them. -/
def contractPair (argument : String) : Except ConfigFault (String × String) :=
  let s := argument.toList
  match s.dropWhile (· != '=') with
  | [] => .error (.notAPair argument)
  | _ :: rest => do
    let name := Text.trim (String.ofList (s.takeWhile (· != '=')))
    Settings.checkContractName name
    let path := Text.trim (String.ofList rest)
    if path.isEmpty then throw (.noPath name)
    return (name, path)

/-- Add the contracts that arguments name; the last path of a contract counts. -/
def addContracts (s : Settings) (arguments : List String) : Except ConfigFault Settings :=
  arguments.foldlM (fun s argument => do
    let (name, path) ← contractPair argument
    return { s with contracts := insertContract name path s.contracts }) s

/-- The settings with what the arguments say put in their place. -/
def Arguments.overlay (a : Arguments) (s : Settings) : Except ConfigFault Settings := do
  let s ← addContracts s a.contracts
  return { s with
    outputDirectory := a.outputDirectory?.getD s.outputDirectory
    library := a.library?.getD s.library
    clean := s.clean || a.clean
    dryRun := s.dryRun || a.dryRun }

/-- The settings that the arguments ask for. -/
def Arguments.settings (a : Arguments) : ExceptT Error m Settings := do
  let s ← match a.settings? with
    | some path => readSettings path
    | none => pure {}
  ofResult ((a.overlay s).mapError Error.config)

/-- Check that an interface is there and is JSON. -/
def checkInput (path : String) : ExceptT Error m Unit := do
  if ← orFail (fun cause => .config (.existenceUnknown cause)) (Access.exists? path) then
    let text ← orFail (fun cause => .config (.inputUnreadable cause)) (Access.readText path)
    match Json.parse text with
    | .ok _ => return ()
    | .error cause => throw (.config (.notJson path cause))
  else throw (.config (.contractMissing path))

/-- What a run is about to do, line by line. -/
def Settings.summary (s : Settings) : List String :=
  let truth (b : Bool) := if b then "true" else "false"
  ["Contract Binding Generation", "==========================="]
  ++ (s.contracts.map fun (name, path) => "ABI: " ++ name ++ " <- " ++ path)
  ++ ["Output directory: " ++ s.outputDirectory,
      "Library module: " ++ s.library,
      "Clean: " ++ truth s.clean,
      "Dry run: " ++ truth s.dryRun,
      ""]

/-- Do what the arguments ask for. The result lists the paths of the files written. -/
def Arguments.run (a : Arguments) : ExceptT Error m (List String) := do
  let s ← a.settings
  ofResult (s.validate.mapError Error.config)
  s.contracts.forM fun (_, path) => checkInput path
  if a.verbose then s.summary.forM printLine
  if s.dryRun then printLine "🔍 Performing dry run - no files will be written"
  else printLine "🚀 Generating contract bindings..."
  let written ← generate s
  if !s.dryRun then
    printLine ("✅ Generated " ++ toString written.length ++ " binding file(s)")
    printLine ("📁 Generated files are located in: " ++ s.outputDirectory)
  return written

end AbiBindings
