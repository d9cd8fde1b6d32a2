import AbiBindings.Abi.Parameter

/-!
# Contracts

The interface of a contract as far as bindings need it: its functions and events, in the order in
which they are declared.
-/

namespace AbiBindings

/-- What a function may do to the state of the chain. -/
inductive Mutability where
  | pure
  | view
  | nonpayable
  | payable
  deriving DecidableEq

namespace Mutability

/-- The word for a mutability. -/
def text : Mutability → String
  | pure => "pure"
  | view => "view"
  | nonpayable => "nonpayable"
  | payable => "payable"

/-- The mutability that a word stands for. -/
def ofText? (s : String) : Option Mutability :=
  if s = "pure" then some pure
  else if s = "view" then some view
  else if s = "nonpayable" then some nonpayable
  else if s = "payable" then some payable
  else none

/-- Whether calls may change the state. -/
def isWrite : Mutability → Bool
  | nonpayable | payable => true
  | pure | view => false

end Mutability

/-- A function of a contract. -/
structure ContractFunction where
  name : String
  inputs : List Parameter
  outputs : List Parameter
  mutability : Mutability

/-- An event of a contract. -/
structure ContractEvent where
  name : String
  inputs : List Parameter
  /-- Whether the topics leave out the hash of the event's signature. -/
  anonymous : Bool

/-- The name that the class of an event has before it is told apart from others. -/
def ContractEvent.classStem (e : ContractEvent) : String :=
  e.name ++ "Event"

/-- One entry of a contract. -/
inductive Entry where
  | function (f : ContractFunction)
  | event (e : ContractEvent)

/-- The interface of a contract. -/
structure Contract where
  entries : List Entry

namespace Entry

/-- The function of an entry that declares one. -/
def function? : Entry → Option ContractFunction
  | function f => some f
  | event _ => none

/-- The event of an entry that declares one. -/
def event? : Entry → Option ContractEvent
  | function _ => none
  | event e => some e

end Entry

namespace Contract

/-- The functions in order. -/
def functions (c : Contract) : List ContractFunction :=
  c.entries.filterMap Entry.function?

/-- The events in order. -/
def events (c : Contract) : List ContractEvent :=
  c.entries.filterMap Entry.event?

/-- Whether there is nothing to bind. -/
def isEmpty (c : Contract) : Bool :=
  c.entries.isEmpty

end Contract

end AbiBindings
