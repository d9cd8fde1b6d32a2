import AbiBindings.Command.Program

/-!
# The program on the real file system

The operations of `Access` on real files, and the entry point. Notes go to standard error.
-/

namespace AbiBindings

/-- The fault behind a code of the system, which some operations report with its sign changed. -/
def IoFault.ofCode (code : UInt32) (text : String) : IoFault :=
  if code = 2 ∨ code = -2 then .notFound
  else if code = 17 ∨ code = -17 then .alreadyExists
  else if code = 20 ∨ code = -20 then .notADirectory
  else if code = 21 ∨ code = -21 then .isADirectory
  else .other text

/-- The fault behind an error of the system. -/
def IoFault.ofError (e : IO.Error) : IoFault :=
  match e with
  | .noFileOrDirectory _ code _ => .ofCode code (toString e)
  | .alreadyExists _ code _ => .ofCode code (toString e)
  | .inappropriateType _ code _ => .ofCode code (toString e)
  | _ => .other (toString e)

/-- Run an operation and keep its fault as a value. -/
def catchFault {α : Type} (operation : IO α) : IO (Except IoFault α) := do
  match ← operation.toBaseIO with
  | .ok a => return .ok a
  | .error e => return .error (.ofError e)

/-- A path as the root of a directory entry. -/
def entryAt (path : String) : IO.FS.DirEntry where
  root := path
  fileName := ""

/-- The names in a directory, each with whether it is that of a file. -/
def listDirectory (path : String) : IO (List (String × Bool)) := do
  let entries ← (entryAt path).root.readDir
  entries.toList.mapM fun entry => do
    return (entry.fileName, (← entry.path.metadata).type matches .file)

instance : Access IO where
  readText path := do
    match ← catchFault (IO.FS.readBinFile path) with
    | .error fault => return .error fault
    | .ok bytes =>
      match String.fromUTF8? bytes with
      | some s => return .ok s
      | none => return .error .notUtf8
  exists? path := do
    match ← catchFault (entryAt path).root.metadata with
    | .ok _ => return .ok true
    | .error .notFound => return .ok false
    | .error fault => return .error fault
  isDirectory path := (entryAt path).root.isDir
  makeDirectory path := catchFault (IO.FS.createDir path)
  writeText path text := catchFault (IO.FS.writeFile path text)
  removeFile path := catchFault (IO.FS.removeFile path)
  list path := catchFault (listDirectory path)
  print text := IO.print text
  note n := IO.eprintln ((if n.isWarning then "WARN " else "INFO ") ++ n.message)

end AbiBindings

/-- Run the program on the arguments of the command line. -/
def main (args : List String) : IO UInt32 := do
  let exit ← (AbiBindings.runProgram args : IO AbiBindings.Exit)
  IO.eprint exit.errorText
  return exit.code.toUInt32
