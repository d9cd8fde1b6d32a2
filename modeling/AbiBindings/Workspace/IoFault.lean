/-!
# Faults of the file system

Why an operation on a file or directory fails, in the wording of the operating system.
-/

namespace AbiBindings

/-- Why an operation on a file or directory fails. -/
inductive IoFault where
  | notFound
  | alreadyExists
  | notADirectory
  | isADirectory
  /-- The bytes of a file are no UTF-8 text. -/
  | notUtf8
  /-- Any other fault, by its wording. -/
  | other (text : String)
  deriving DecidableEq

/-- The wording of a fault. -/
def IoFault.message : IoFault → String
  | notFound => "No such file or directory (os error 2)"
  | alreadyExists => "File exists (os error 17)"
  | notADirectory => "Not a directory (os error 20)"
  | isADirectory => "Is a directory (os error 21)"
  | notUtf8 => "stream did not contain valid UTF-8"
  | other text => text

end AbiBindings
