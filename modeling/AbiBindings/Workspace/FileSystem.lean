import AbiBindings.Workspace.IoFault
import AbiBindings.Workspace.PathText

/-!
# File systems

Files and directories by their locations, and a working directory from which relative paths are
walked. A path is walked segment by segment: every location on the way has to be a directory, a
point stays, and two points go up. There are no links.
-/

namespace AbiBindings

/-- What a file holds. -/
inductive Contents where
  | text (s : String)
  /-- Bytes that need not be text. -/
  | raw (bytes : List UInt8)

/-- The text of a file, if its bytes are UTF-8. -/
def Contents.text? : Contents → Option String
  | text s => some s
  | raw bytes => String.fromUTF8? ⟨bytes.toArray⟩

/-- The names from the root to a file or directory. -/
abbrev Location := List String

/-- What stands at a location. -/
inductive FileNode where
  | file (c : Contents)
  | directory

/-- Files and directories. -/
structure FileSystem where
  entries : List (Location × FileNode) := []
  /-- The working directory. -/
  working : Location := []

namespace FileSystem

/-! ## Locations -/

/-- What stands at a location; the root is always a directory. -/
def get? (fs : FileSystem) (l : Location) : Option FileNode :=
  if l = [] then some .directory else fs.entries.lookup l

/-- Put something at a location. -/
def put (fs : FileSystem) (l : Location) (n : FileNode) : FileSystem :=
  { fs with entries := (l, n) :: fs.entries.filter (·.1 != l) }

/-- Leave nothing at a location. -/
def erase (fs : FileSystem) (l : Location) : FileSystem :=
  { fs with entries := fs.entries.filter (·.1 != l) }

/-- Whether a directory stands at a location. -/
def isDirectoryAt (fs : FileSystem) (l : Location) : Bool :=
  match fs.get? l with
  | some .directory => true
  | _ => false

theorem lookup_filter_ne {entries : List (Location × FileNode)} {l k : Location} (h : k ≠ l) :
    (entries.filter (·.1 != l)).lookup k = entries.lookup k := by
  induction entries with
  | nil => rfl
  | cons e rest ih =>
    obtain ⟨j, n⟩ := e
    by_cases hj : j = l
    · subst hj
      have hk : (k == j) = false := by simpa using h
      simp [List.lookup_cons, hk, ih]
    · simp [hj, List.lookup_cons, ih]

theorem get?_put_self {fs : FileSystem} {l : Location} {n : FileNode} (h : l ≠ []) :
    (fs.put l n).get? l = some n := by
  simp [get?, put, h]

theorem get?_put_of_ne {fs : FileSystem} {l k : Location} {n : FileNode} (h : k ≠ l) :
    (fs.put l n).get? k = fs.get? k := by
  have hk : (k == l) = false := by simpa using h
  simp [get?, put, List.lookup_cons, hk, lookup_filter_ne h]

theorem get?_erase_of_ne {fs : FileSystem} {l k : Location} (h : k ≠ l) :
    (fs.erase l).get? k = fs.get? k := by
  simp [get?, erase, lookup_filter_ne h]

/-! ## Walking -/

/-- The location that one segment leads to. Where the location is no directory, or has nothing of
that name, the walk ends. -/
def enter (fs : FileSystem) (l : Location) (segment : String) : Except IoFault Location :=
  if !fs.isDirectoryAt l then .error .notADirectory
  else if segment = "." then .ok l
  else if segment = ".." then .ok l.dropLast
  else if (fs.get? (l ++ [segment])).isSome then .ok (l ++ [segment])
  else .error .notFound

/-- The names in a path; slashes in a row count as one. -/
def pathSegments (path : String) : List String :=
  ((PathText.segments path.toList).filter (!·.isEmpty)).map String.ofList

/-- Where the walk along a path begins. -/
def origin (fs : FileSystem) (path : String) : Location :=
  if PathText.isAbsolute path then [] else fs.working

/-- Whether a path ends in a slash. -/
def endsInSlash (path : String) : Bool :=
  path.toList.getLast? == some '/'

/-- The location that a path denotes, at which something stands. A path that ends in a slash
denotes directories only. -/
def locate (fs : FileSystem) (path : String) : Except IoFault Location := do
  if path.isEmpty then throw .notFound
  let l ← (pathSegments path).foldlM fs.enter (fs.origin path)
  if endsInSlash path && !fs.isDirectoryAt l then throw .notADirectory
  return l

/-- The directory that holds what a path denotes, whether it exists or not, and its name there;
no name where the path ends in a point, in two points or at the root. -/
def locateParent (fs : FileSystem) (path : String) : Except IoFault (Location × Option String) := do
  if path.isEmpty then throw .notFound
  let segments := pathSegments path
  let l ← segments.dropLast.foldlM fs.enter (fs.origin path)
  if !fs.isDirectoryAt l then throw .notADirectory
  match segments.getLast? with
  | some name => return (l, if name = "." ∨ name = ".." then none else some name)
  | none => return (l, none)

/-! ## Operations -/

/-- The text of the file that a path denotes. -/
def readText (fs : FileSystem) (path : String) : Except IoFault String := do
  match fs.get? (← fs.locate path) with
  | some (.file c) =>
    match c.text? with
    | some s => return s
    | none => throw .notUtf8
  | some .directory => throw .isADirectory
  | none => throw .notFound

/-- Whether a path denotes anything. -/
def exists? (fs : FileSystem) (path : String) : Except IoFault Bool :=
  match fs.locate path with
  | .ok _ => .ok true
  | .error .notFound => .ok false
  | .error fault => .error fault

/-- Whether a path denotes a directory. -/
def isDirectory (fs : FileSystem) (path : String) : Bool :=
  match fs.locate path with
  | .ok l => fs.isDirectoryAt l
  | .error _ => false

/-- Make one directory, whose parent exists. -/
def makeDirectory (fs : FileSystem) (path : String) : Except IoFault FileSystem := do
  let (l, name?) ← fs.locateParent path
  match name? with
  | none => throw .alreadyExists
  | some name =>
    if (fs.get? (l ++ [name])).isSome then throw .alreadyExists
    else return fs.put (l ++ [name]) .directory

/-- Write a file, whose directory exists. -/
def writeText (fs : FileSystem) (path text : String) : Except IoFault FileSystem := do
  let (l, name?) ← fs.locateParent path
  match name? with
  | none => throw .isADirectory
  | some name =>
    if endsInSlash path || fs.isDirectoryAt (l ++ [name]) then throw .isADirectory
    else return fs.put (l ++ [name]) (.file (.text text))

/-- Remove a file. -/
def removeFile (fs : FileSystem) (path : String) : Except IoFault FileSystem := do
  let l ← fs.locate path
  if fs.isDirectoryAt l then throw .isADirectory else return fs.erase l

/-- The names in a directory, each with whether it is that of a file. -/
def list (fs : FileSystem) (path : String) : Except IoFault (List (String × Bool)) := do
  let l ← fs.locate path
  if !fs.isDirectoryAt l then throw .notADirectory
  return fs.entries.filterMap fun (k, n) =>
    match k.getLast? with
    | some name =>
      if k.dropLast = l then
        some (name, match n with
          | .file _ => true
          | .directory => false)
      else none
    | none => none

end FileSystem

end AbiBindings
