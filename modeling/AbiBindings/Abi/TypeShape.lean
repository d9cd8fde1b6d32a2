import AbiBindings.Abi.TypeText

/-!
# Shapes of types

A type text taken apart: array levels around a tuple or an elementary type. Every text has a
shape, and the shape gives the text back.
-/

namespace AbiBindings

/-- A type taken apart. -/
inductive TypeShape where
  /-- Any type that is neither an array nor a tuple, by its name. -/
  | elementary (name : String)
  /-- A tuple; its components are listed apart from the type. -/
  | tuple
  /-- An array of a fixed size, as it is written, or of any size. -/
  | array (element : TypeShape) (size : Option String)
  deriving DecidableEq

namespace TypeShape

/-- The type text of tuples. -/
def tupleText : String :=
  "tuple"

/-- The shape of a type text, given as characters. -/
def ofChars (s : List Char) : TypeShape :=
  match _h : TypeText.lastLevel? s with
  | some (element, size) =>
    array (ofChars element) (if size.isEmpty then none else some (String.ofList size))
  | none => if s = tupleText.toList then tuple else elementary (String.ofList s)
termination_by s.length
decreasing_by exact TypeText.length_lt_of_lastLevel? _h

/-- The shape of a type text. -/
def ofText (s : String) : TypeShape :=
  ofChars s.toList

/-- An array level as it is written. -/
def levelText (size : Option String) : String :=
  "[" ++ size.getD "" ++ "]"

/-- The type text of a shape. -/
def text : TypeShape → String
  | elementary name => name
  | tuple => tupleText
  | array element size => element.text ++ levelText size

/-- What stands inside all array levels. -/
def innermost : TypeShape → TypeShape
  | array element _ => element.innermost
  | s => s

/-- The number of array levels. -/
def depth : TypeShape → Nat
  | array element _ => element.depth + 1
  | _ => 0

/-- Whether there is a tuple inside all array levels. -/
def isTuple : TypeShape → Bool
  | elementary _ => false
  | tuple => true
  | array element _ => element.isTuple

/-- Whether there is an array level. -/
def isArray : TypeShape → Bool
  | array _ _ => true
  | _ => false

end TypeShape

end AbiBindings
