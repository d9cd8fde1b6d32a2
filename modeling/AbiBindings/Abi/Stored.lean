import AbiBindings.Abi.Contract
import AbiBindings.Json.Value

/-!
# The stored form of contracts

Besides the interface files that compilers write, a contract has a JSON form of its own, which
keeps exactly what the model holds. A record is an object with one member for each field, or the
array of its fields in order; a variant with a payload is an object with the variant's name as its
only key. Reading is strict: apart from the internal type every field has to be there, and members
of other names are passed over.
-/

namespace AbiBindings

/-! ## Writing -/

mutual

/-- The stored form of a parameter. -/
def Parameter.stored : Parameter → Json
  | ⟨name, typeText, internalType, components, indexed⟩ =>
    .object [
      ("name", .string name),
      ("param_type", .string typeText),
      ("internal_type", (internalType.map Json.string).getD .null),
      ("components", .array (storedParameters components)),
      ("indexed", .bool indexed)]

/-- The stored forms of a list of parameters. -/
def storedParameters : List Parameter → List Json
  | [] => []
  | p :: rest => p.stored :: storedParameters rest

end

/-- The stored form of an entry. -/
def Entry.stored : Entry → Json
  | function f =>
    .object [("Function", .object [
      ("name", .string f.name),
      ("inputs", .array (storedParameters f.inputs)),
      ("outputs", .array (storedParameters f.outputs)),
      ("state_mutability", .string f.mutability.text)])]
  | event e =>
    .object [("Event", .object [
      ("name", .string e.name),
      ("inputs", .array (storedParameters e.inputs)),
      ("anonymous", .bool e.anonymous)])]

/-- The stored form of a contract. -/
def Contract.stored (c : Contract) : Json :=
  .object [("items", .array (c.entries.map Entry.stored))]

/-! ## Reading -/

/-- The values of a record's fields, of which the object form may leave out those that are
optional. -/
def recordFields? (fields : List String) (optional : List String) : Json → Option (List Json)
  | .array items => if items.length = fields.length then some items else none
  | .object members =>
    fields.mapM fun field =>
      match Json.lastMember? field members with
      | some v => some v
      | none => if optional.contains field then some .null else none
  | _ => none

/-- An item of a field that is a list is smaller than the record. -/
theorem sizeOf_lt_of_recordFields? {fields optional : List String} {v item : Json}
    {values items : List Json} (h : recordFields? fields optional v = some values)
    (hw : .array items ∈ values) (hm : item ∈ items) :
    sizeOf item < sizeOf v := by
  have hlt := Json.sizeOf_item_lt hm
  unfold recordFields? at h
  split at h
  · rename_i parts
    split at h
    · obtain rfl : parts = values := by simpa using h
      exact Nat.lt_trans hlt (Json.sizeOf_item_lt hw)
    · simp at h
  · rename_i members
    have hfound : ∀ (fs : List String) (vs : List Json),
        (fs.mapM fun field =>
          match Json.lastMember? field members with
          | some v => some v
          | none => if optional.contains field then some .null else none) = some vs →
        Json.array items ∈ vs →
        ∃ field, Json.lastMember? field members = some (.array items) := by
      intro fs
      induction fs with
      | nil => intro vs hvs hin; simp at hvs; subst hvs; simp at hin
      | cons f fs ih =>
        intro vs hvs hin
        rw [List.mapM_cons] at hvs
        obtain ⟨x, hx, hvs⟩ := Option.bind_eq_some_iff.1 hvs
        obtain ⟨xs, hxs, hvs⟩ := Option.bind_eq_some_iff.1 hvs
        obtain rfl : x :: xs = vs := by simpa using hvs
        rcases List.mem_cons.1 hin with rfl | hin
        · cases hlast : Json.lastMember? f members with
          | some y => exact ⟨f, by simpa [hlast] using hx⟩
          | none => simp [hlast] at hx
        · exact ih xs hxs hin
    obtain ⟨field, hf⟩ := hfound fields values h hw
    have := Json.sizeOf_lastMember?_lt hf
    have hobj : sizeOf members < sizeOf (Json.object members) := by simp
    exact Nat.lt_trans hlt (Nat.lt_trans this hobj)
  · simp at h

/-- The text of a field that may be null. -/
def optionalText? : Json → Option (Option String)
  | .null => some none
  | .string s => some (some s)
  | _ => none

/-- The parameter with the given stored form. -/
def Parameter.ofStored? (v : Json) : Option Parameter :=
  match _h : recordFields? ["name", "param_type", "internal_type", "components", "indexed"]
      ["internal_type"] v with
  | some [name, typeText, internalType, .array components, indexed] => do
    return {
      name := ← name.string?
      typeText := ← typeText.string?
      internalType := ← optionalText? internalType
      components := ← components.attach.mapM fun ⟨c, _⟩ => Parameter.ofStored? c
      indexed := ← indexed.bool? }
  | _ => none
termination_by sizeOf v
decreasing_by
  have hm : Json.array components ∈ [name, typeText, internalType, .array components, indexed] := by
    simp
  exact sizeOf_lt_of_recordFields? _h hm ‹_›

/-- A parameter is read by its fields, and so is each of its components. -/
theorem Parameter.ofStored?_eq (v : Json) :
    Parameter.ofStored? v =
      match recordFields? ["name", "param_type", "internal_type", "components", "indexed"]
          ["internal_type"] v with
      | some [name, typeText, internalType, .array components, indexed] => do
        return {
          name := ← name.string?
          typeText := ← typeText.string?
          internalType := ← optionalText? internalType
          components := ← components.mapM Parameter.ofStored?
          indexed := ← indexed.bool? }
      | _ => none := by
  rw [Parameter.ofStored?]
  split
  · rename_i name typeText internalType components indexed h
    have hall : (components.attach.mapM fun c : { c // c ∈ components } =>
        Parameter.ofStored? c.1) = components.mapM Parameter.ofStored? := by
      rw [List.mapM_subtype (g := Parameter.ofStored?) (by intros; rfl)]
      simp
    simp only [h, hall]
  · rename_i h
    split
    · rename_i heq
      exact absurd heq (h _ _ _ _ _)
    · rfl

/-- The parameters with the given stored forms. -/
def parametersOfStored? : Json → Option (List Parameter)
  | .array items => items.mapM Parameter.ofStored?
  | _ => none

/-- The mutability with the given stored form: its word, or an object with that word as its only
key and a null value. -/
def Mutability.ofStored? : Json → Option Mutability
  | .string s => Mutability.ofText? s
  | .object [(s, .null)] => Mutability.ofText? s
  | _ => none

/-- The entry with the given stored form. -/
def Entry.ofStored? : Json → Option Entry
  | .object [("Function", v)] =>
    match recordFields? ["name", "inputs", "outputs", "state_mutability"] [] v with
    | some [name, inputs, outputs, mutability] => do
      return .function {
        name := ← name.string?
        inputs := ← parametersOfStored? inputs
        outputs := ← parametersOfStored? outputs
        mutability := ← Mutability.ofStored? mutability }
    | _ => none
  | .object [("Event", v)] =>
    match recordFields? ["name", "inputs", "anonymous"] [] v with
    | some [name, inputs, anonymous] => do
      return .event {
        name := ← name.string?
        inputs := ← parametersOfStored? inputs
        anonymous := ← anonymous.bool? }
    | _ => none
  | _ => none

/-- The contract with the given stored form. -/
def Contract.ofStored? (v : Json) : Option Contract :=
  match recordFields? ["items"] [] v with
  | some [.array items] => do return ⟨← items.mapM Entry.ofStored?⟩
  | _ => none

end AbiBindings
