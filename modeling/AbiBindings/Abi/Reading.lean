import AbiBindings.Abi.Contract
import AbiBindings.Json.Value

/-!
# Reading interfaces

An interface is a JSON array of entries. Functions and events are kept in order, entries of every
other type are passed over, and an entry without a type is a function. Of several faults the one
that comes first in the text's order of entries is reported; within an entry the name comes before
the inputs, the inputs before the outputs and the mutability last.
-/

namespace AbiBindings

/-- Why a JSON value is no interface. -/
inductive AbiFault where
  | notAnArray
  | unnamedFunction
  | unnamedEvent
  /-- The member of the given name holds something other than a list. -/
  | listExpected (field : String)
  | untypedParameter
  | unknownMutability (word function : String)
  deriving DecidableEq

/-- The wording of a fault. -/
def AbiFault.message : AbiFault → String
  | notAnArray => "ABI must be an array"
  | unnamedFunction => "Function must have a name"
  | unnamedEvent => "Event must have a name"
  | listExpected field => "'" ++ field ++ "' must be an array"
  | untypedParameter => "Parameter must have a type"
  | unknownMutability word function =>
    "Unknown state mutability '" ++ word ++ "' on function " ++ function

/-! ## Lists of parameters -/

/-- The items of a list member; a missing or null member is an empty list. -/
def listMember (v : Json) (field : String) : Except AbiFault (List Json) :=
  match v.get? field with
  | none => .ok []
  | some .null => .ok []
  | some (.array items) => .ok items
  | some _ => .error (.listExpected field)

/-- An item of a list member is smaller than the value that has the member. -/
theorem sizeOf_lt_of_listMember {v item : Json} {field : String} {items : List Json}
    (h : listMember v field = .ok items) (hm : item ∈ items) : sizeOf item < sizeOf v := by
  unfold listMember at h
  split at h
  · obtain rfl : [] = items := by simpa using h
    simp at hm
  · obtain rfl : [] = items := by simpa using h
    simp at hm
  · rename_i found hget
    obtain rfl : found = items := by simpa using h
    exact Nat.lt_trans (Json.sizeOf_item_lt hm) (Json.sizeOf_get?_lt hget)
  · simp at h

/-- The parameter that a JSON value describes. -/
def Parameter.ofJson (v : Json) : Except AbiFault Parameter :=
  match v.text? "type" with
  | none => .error .untypedParameter
  | some typeText =>
    match _h : listMember v "components" with
    | .error fault => .error fault
    | .ok items => do
      let components ← items.attach.mapM fun ⟨item, _⟩ => Parameter.ofJson item
      return {
        name := (v.text? "name").getD ""
        typeText
        internalType := v.text? "internalType"
        components
        indexed := v.flag "indexed" }
termination_by sizeOf v
decreasing_by exact sizeOf_lt_of_listMember _h ‹_›

/-- The parameters in a list member. -/
def parametersOfJson (v : Json) (field : String) : Except AbiFault (List Parameter) := do
  (← listMember v field).mapM Parameter.ofJson

/-- A parameter is read by its members, the components as a list member is. -/
theorem Parameter.ofJson_eq (v : Json) :
    Parameter.ofJson v =
      match v.text? "type" with
      | none => .error .untypedParameter
      | some typeText => do
        let components ← parametersOfJson v "components"
        return {
          name := (v.text? "name").getD ""
          typeText
          internalType := v.text? "internalType"
          components
          indexed := v.flag "indexed" } := by
  rw [Parameter.ofJson]
  split
  · rfl
  · simp only [parametersOfJson]
    split
    · rename_i fault hlist
      simp only [hlist]
      rfl
    · rename_i items hlist
      have hall : (items.attach.mapM fun item : { item // item ∈ items } =>
          Parameter.ofJson item.1) = items.mapM Parameter.ofJson := by
        rw [List.mapM_subtype (g := Parameter.ofJson) (by intros; rfl)]
        simp
      simp only [hlist, hall]
      rfl

/-! ## Entries -/

/-- The name of an entry, which must not be empty; otherwise the given fault. -/
def nameOfJson (v : Json) (fault : AbiFault) : Except AbiFault String :=
  match v.text? "name" with
  | some name => if name = "" then .error fault else .ok name
  | none => .error fault

/-- The mutability of a function. Where it is not stated, older flags decide: `constant` before
`payable`. -/
def mutabilityOfJson (v : Json) (function : String) : Except AbiFault Mutability :=
  match v.text? "stateMutability" with
  | some word =>
    match Mutability.ofText? word with
    | some m => .ok m
    | none => .error (.unknownMutability word function)
  | none =>
    .ok (if v.flag "constant" then .view else if v.flag "payable" then .payable else .nonpayable)

/-- The function that an entry declares. -/
def ContractFunction.ofJson (v : Json) : Except AbiFault ContractFunction := do
  let name ← nameOfJson v .unnamedFunction
  let inputs ← parametersOfJson v "inputs"
  let outputs ← parametersOfJson v "outputs"
  let mutability ← mutabilityOfJson v name
  return { name, inputs, outputs, mutability }

/-- The event that an entry declares. -/
def ContractEvent.ofJson (v : Json) : Except AbiFault ContractEvent := do
  let name ← nameOfJson v .unnamedEvent
  let inputs ← parametersOfJson v "inputs"
  return { name, inputs, anonymous := v.flag "anonymous" }

/-- The entry that a JSON value declares; none where its type is neither function nor event. -/
def Entry.ofJson (v : Json) : Except AbiFault (Option Entry) :=
  match (v.text? "type").getD "function" with
  | "function" => do return some (.function (← ContractFunction.ofJson v))
  | "event" => do return some (.event (← ContractEvent.ofJson v))
  | _ => .ok none

/-- The contract that a JSON value declares. -/
def Contract.ofJson : Json → Except AbiFault Contract
  | .array items => do return ⟨(← items.mapM Entry.ofJson).filterMap id⟩
  | _ => .error .notAnArray

end AbiBindings
