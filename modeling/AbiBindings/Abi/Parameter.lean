import AbiBindings.Abi.TypeShape

/-!
# Parameters

An input or output of a function, an input of an event, or a component of a tuple. The type is
kept as text; its shape is read off when it is needed. The internal type is the compiler's name
for the type, such as `struct Pool.Key[]`, and follows the array levels of the type.
-/

namespace AbiBindings

/-- A parameter of a contract's interface. -/
structure Parameter where
  /-- The name, empty where the interface leaves it out. -/
  name : String := ""
  /-- The type as it is written. -/
  typeText : String
  /-- The compiler's own name for the type. -/
  internalType : Option String := none
  /-- The components, where the type is built from tuples. -/
  components : List Parameter := []
  /-- Whether an event keeps the value among its topics. -/
  indexed : Bool := false

namespace Parameter

/-- The shape of the type. -/
def shape (p : Parameter) : TypeShape :=
  TypeShape.ofText p.typeText

/-- Whether a tuple stands inside all array levels. -/
def isTuple (p : Parameter) : Bool :=
  p.shape.isTuple

/-- Whether the type is an array. -/
def isArray (p : Parameter) : Bool :=
  p.shape.isArray

/-- One element of an array parameter; a parameter that is no array is its own element. -/
def element (p : Parameter) : Parameter :=
  if p.isArray then
    { p with
      typeText := TypeText.base p.typeText
      internalType := p.internalType.map TypeText.base }
  else p

/-- The parameter without any array level. -/
def innermost (p : Parameter) : Parameter :=
  { p with
    typeText := TypeText.innermost p.typeText
    internalType := p.internalType.map TypeText.innermost }

/-- Whether an event holds only the hash of the value: it is among the topics and is an array, a
tuple, or a text or byte text of any length. -/
def isHashedTopic (p : Parameter) : Bool :=
  p.indexed && (p.isArray || p.isTuple || p.typeText == "string" || p.typeText == "bytes")

end Parameter

end AbiBindings
