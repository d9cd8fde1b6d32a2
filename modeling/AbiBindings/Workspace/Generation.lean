import AbiBindings.Emit.SourceFile
import AbiBindings.Workspace.Access
import AbiBindings.Workspace.Settings

/-!
# Generation

A run takes the contracts in the order of their names: it reads the interface, and writes the
bindings or, in a dry run, prints them. Files of earlier runs are removed before the first
interface is read. A contract with nothing to bind is skipped. The first error ends the run.
-/

namespace AbiBindings

variable {m : Type → Type} [Monad m] [Access m]

/-- An operation whose faults are errors of a given form. -/
def orFail {α : Type} (wrap : IoFault → Error) (operation : m (Except IoFault α)) :
    ExceptT Error m α :=
  ExceptT.mk ((fun r => r.mapError wrap) <$> operation)

/-- A result, or the error it holds. -/
def ofResult {α : Type} (r : Except Error α) : ExceptT Error m α :=
  ExceptT.mk (pure r)

/-- Print one line. -/
def printLine (line : String) : ExceptT Error m Unit :=
  ExceptT.lift (Access.print (line ++ "\n"))

/-- Take a note. -/
def takeNote (n : Note) : ExceptT Error m Unit :=
  ExceptT.lift (Access.note n)

/-- The contract that a file declares. -/
def readContract (path : String) : ExceptT Error m Contract := do
  ofResult (Contract.ofText (← orFail Error.io (Access.readText path)))

/-- The settings in a file; relative paths are taken from the file's directory. -/
def readSettings (path : String) : ExceptT Error m Settings := do
  let text ← orFail (fun cause => .config (.settingsUnreadable path cause)) (Access.readText path)
  let s ← ofResult ((Settings.ofToml text).mapError Error.serialization)
  match PathText.parent? path with
  | some base => return s.relativeTo base
  | none => return s

/-- Remove the files with the settings' extension from the output directory, if there is one. -/
def removeEarlier (s : Settings) : ExceptT Error m Unit := do
  if ← orFail Error.io (Access.exists? s.outputDirectory) then
    let listed ← orFail Error.io (Access.list s.outputDirectory)
    let earlier := listed.filter fun (name, isFile) =>
      isFile && PathText.extension? name == some s.extension
    earlier.forM fun (name, _) =>
      orFail Error.io (Access.removeFile (PathText.join s.outputDirectory name))

/-- Bind one contract. The result is the path of the file written, if one was. -/
def bindContract (s : Settings) (contract path : String) : ExceptT Error m (Option String) := do
  let text ← orFail (fun cause => .config (.contractUnreadable path cause)) (Access.readText path)
  let c ← ofResult (Contract.ofText text)
  (c.bindingsWarnings s.library contract).forM fun w => takeNote (.warning w)
  let code := c.bindingsText s.library contract
  let output := s.outputPath contract
  if code.isEmpty then
    takeNote (.nothingToBind path contract)
    return none
  else if s.dryRun then
    printLine ("\n--- " ++ output ++ " ---")
    printLine code
    return none
  else
    orFail (fun cause => .config (.noOutputDirectory cause)) (makeDirectories s.outputDirectory)
    orFail Error.io (Access.writeText output code)
    takeNote (.wrote output)
    return some output

/-- Bind contracts in turn. The result lists the paths of the files written. -/
def bindAll (s : Settings) : List (String × String) → ExceptT Error m (List String)
  | [] => return []
  | (contract, path) :: rest => do
    let written? ← bindContract s contract path
    return written?.toList ++ (← bindAll s rest)

/-- Do what the settings say. -/
def generate (s : Settings) : ExceptT Error m (List String) := do
  ofResult (s.validate.mapError Error.config)
  if s.clean && !s.dryRun then removeEarlier s
  bindAll s s.contracts

end AbiBindings
