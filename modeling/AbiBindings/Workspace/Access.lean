import AbiBindings.Workspace.FileSystem
import AbiBindings.Workspace.Note

/-!
# Access to files and output

The operations through which a run reads and changes its surroundings. They are offered by the
model of a file system, on which runs can be reasoned about, and by the real one.
-/

namespace AbiBindings

/-- The surroundings of a run: reading and changing files, printing, and taking notes. -/
class Access (m : Type → Type) where
  readText : String → m (Except IoFault String)
  exists? : String → m (Except IoFault Bool)
  isDirectory : String → m Bool
  makeDirectory : String → m (Except IoFault Unit)
  writeText : String → String → m (Except IoFault Unit)
  removeFile : String → m (Except IoFault Unit)
  /-- The names in a directory, each with whether it is that of a file. -/
  list : String → m (Except IoFault (List (String × Bool)))
  print : String → m Unit
  note : Note → m Unit

/-- Make a directory and those above it that are missing. One that exists is no fault, and the
empty path needs none. -/
def makeDirectories {m : Type → Type} [Monad m] [Access m] (path : String) :
    m (Except IoFault Unit) := do
  if path.isEmpty then return .ok ()
  match ← Access.makeDirectory path with
  | .ok () => return .ok ()
  | .error fault =>
    if fault ≠ .notFound then
      return if ← Access.isDirectory path then .ok () else .error fault
    else
      match _h : PathText.parent? path with
      | none => return .error (.other "failed to create whole tree")
      | some parent =>
        match ← makeDirectories parent with
        | .error fault => return .error fault
        | .ok () =>
          match ← Access.makeDirectory path with
          | .ok () => return .ok ()
          | .error fault => return if ← Access.isDirectory path then .ok () else .error fault
termination_by path.toList.length
decreasing_by exact PathText.length_parent?_lt _h

/-! ## The model -/

/-- A file system, what has been printed, and the notes taken. -/
structure Workspace where
  files : FileSystem := {}
  printed : String := ""
  notes : List Note := []

namespace Workspace

/-- Change the file system, unless the operation fails. -/
def update (operation : FileSystem → Except IoFault FileSystem) :
    StateM Workspace (Except IoFault Unit) := fun w =>
  match operation w.files with
  | .ok files => (.ok (), { w with files })
  | .error fault => (.error fault, w)

instance : Access (StateM Workspace) where
  readText path := fun w => (w.files.readText path, w)
  exists? path := fun w => (w.files.exists? path, w)
  isDirectory path := fun w => (w.files.isDirectory path, w)
  makeDirectory path := update (·.makeDirectory path)
  writeText path text := update (·.writeText path text)
  removeFile path := update (·.removeFile path)
  list path := fun w => (w.files.list path, w)
  print text := fun w => ((), { w with printed := w.printed ++ text })
  note n := fun w => ((), { w with notes := w.notes ++ [n] })

end Workspace

end AbiBindings
