import AbiBindings.Abi.Contract
import AbiBindings.Abi.Elementary
import AbiBindings.Hash.Keccak

/-!
# Signatures

The canonical text of a type writes shorthands in full and a tuple as the list of its components'
canonical texts. A function or event is known on the chain by the hash of its name followed by the
list of its inputs: functions by the first four bytes, events by all thirty-two. Names of
parameters, internal types and topics play no part.
-/

namespace AbiBindings

/-- The canonical text of a shape, given the text that stands for its tuple. -/
def TypeShape.canonicalText (tupleList : String) : TypeShape → String
  | elementary name => canonicalElementary name
  | tuple => tupleList
  | array element size => element.canonicalText tupleList ++ levelText size

/-- The parenthesised list of types. -/
def typeList (types : List String) : String :=
  "(" ++ ",".intercalate types ++ ")"

mutual

/-- The canonical text of a parameter's type. -/
def Parameter.canonicalType : Parameter → String
  | ⟨_, typeText, _, components, _⟩ =>
    (TypeShape.ofText typeText).canonicalText (typeList (canonicalTypes components))

/-- The canonical texts of the types of a list of parameters. -/
def canonicalTypes : List Parameter → List String
  | [] => []
  | p :: rest => p.canonicalType :: canonicalTypes rest

end

/-- The canonical text of the tuple of the given parameters. -/
def tupleSignature (parameters : List Parameter) : String :=
  typeList (canonicalTypes parameters)

/-- The signature of a function or event. -/
def signature (name : String) (inputs : List Parameter) : String :=
  name ++ tupleSignature inputs

/-- The hash of a signature in hexadecimal digits: its first bytes, as many as given. -/
def signatureHash (bytes : Nat) (name : String) (inputs : List Parameter) : String :=
  "0x" ++ Keccak.hexText ((Keccak.ofText (signature name inputs)).take bytes)

/-- The four bytes that select a function in a call. -/
def ContractFunction.selector (f : ContractFunction) : String :=
  signatureHash 4 f.name f.inputs

/-- The hash that an event has as its first topic. -/
def ContractEvent.topic (e : ContractEvent) : String :=
  signatureHash 32 e.name e.inputs

end AbiBindings
