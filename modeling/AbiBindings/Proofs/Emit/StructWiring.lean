import AbiBindings.Proofs.Emit.EventWiring
import AbiBindings.Proofs.Emit.Operands
import AbiBindings.Proofs.Emit.Rendering

/-! # How struct classes are wired

A component gets its field when the struct is defined, and its variable when the class is written,
from the fields in another scope. Resolving keeps length and order both times, so the six lists of
a class follow the components one by one (`fields_structClass`). Field `i` is read from part `i` and
encoded under the component's own signature, both as written from the type of the component
(`readings_structClass`, `wired_structClass`). -/

namespace AbiBindings
set_option autoImplicit false

/-! ## What is to be emitted -/

/-- A component of a struct with the names that it has in the class. -/
structure NamedComponent where
  component : Parameter
  field : String
  variableName : String

/-- The components with the names of their fields and of their variables. -/
def StructDefinition.namedComponents (d : StructDefinition) : List NamedComponent :=
  List.zipWith (fun p variableName => ⟨p.parameter, p.name, variableName⟩) d.fields
    (NameScope.bodyLocal.resolve (d.fields.map NamedParameter.name))

namespace StructRegistry

/-- The line that reads a component from the part at its position. -/
def partReading (r : StructRegistry) (position : Nat) (w : NamedComponent) : String :=
  "    const " ++ w.variableName ++ ": " ++ (r.valueType w.component).text ++ " = "
    ++ r.decodedText w.component ("parts[" ++ toString position ++ "]")

/-- The text of a struct's class. -/
def structText (r : StructRegistry) (name : String) (ws : List NamedComponent) : String :=
  "export class " ++ name ++ " \x7b\n"
    ++ "\n".intercalate (ws.map fun w =>
      "  readonly " ++ w.field ++ ": " ++ (r.valueType w.component).text)
    ++ "\n\n" ++ "  constructor("
    ++ ", ".intercalate (ws.map fun w => w.variableName ++ ": " ++ (r.valueType w.component).text)
    ++ ") \x7b\n"
    ++ "\n".intercalate (ws.map fun w => "    this." ++ w.field ++ " = " ++ w.variableName)
    ++ "\n  \x7d\n\n"
    ++ "  static parse(data: string): " ++ name ++ " \x7b\n"
    ++ "    const parts = parseCSVNotNullable(data)\n"
    ++ "    if (parts.length !== " ++ toString ws.length
    ++ ") throw new Error('Invalid data for tuple parsing')\n"
    ++ "\n".intercalate (ws.mapIdx r.partReading)
    ++ "\n" ++ "    return new " ++ name ++ "("
    ++ ", ".intercalate (ws.map NamedComponent.variableName) ++ ")\n  \x7d\n\n"
    ++ "  toEvmEncodeParams(): EvmEncodeParam[] \x7b\n    return [\n"
    ++ "\n".intercalate (ws.map fun w =>
      "      " ++ w.component.encodedText ("this." ++ w.field) ++ ",")
    ++ "\n    ]\n  \x7d\n\x7d"

end StructRegistry

/-- A class reads and encodes the components of a struct, which have the given names in it. -/
structure StructClass.Wired (r : StructRegistry) (d : StructDefinition) (ws : List NamedComponent)
    (c : StructClass) : Prop where
  /-- Every component has one field and one variable. -/
  components : ws.map NamedComponent.component = d.fields.map NamedParameter.parameter
  fieldsApart : (ws.map NamedComponent.field).Nodup
  /-- No field is a member that classes have already. -/
  fieldsFree : ∀ w ∈ ws, w.field ∉ NameScope.property.reserved
  variablesApart : (ws.map NamedComponent.variableName).Nodup
  variablesFree : ∀ w ∈ ws, w.variableName ∉ ["data", "parts"]
  /-- The parts are read in turn, and each is among those that the number is tested for. -/
  inTurn : c.fields.map (·.decoding.access) = (List.range ws.length).map partText
  inRange : ∀ f ∈ c.fields, ∃ k < ws.length, f.decoding.access = partText k
  /-- Each entry is a field under the type of its component. -/
  operands : c.fields.map (·.encoding.operand) = ws.map fun w => "this." ++ w.field
  signatures : c.fields.map (·.encoding.signature) = ws.map fun w =>
    if w.component.isTuple then "()" ++ TypeText.levels w.component.typeText
    else w.component.canonicalType
  rendered : renderTemplate Template.structClass.name c.data = .ok (r.structText d.className ws)

/-! ## Names -/

namespace StructDefinition

variable (d : StructDefinition)

@[simp] theorem length_namedComponents : d.namedComponents.length = d.fields.length := by
  simp [namedComponents]

theorem map_component_namedComponents :
    d.namedComponents.map NamedComponent.component = d.fields.map NamedParameter.parameter := by
  unfold namedComponents
  apply map_zipWith_of_left
  · intro _ _
    rfl
  · simp

theorem map_field_namedComponents :
    d.namedComponents.map NamedComponent.field = d.fields.map NamedParameter.name := by
  unfold namedComponents
  apply map_zipWith_of_left
  · intro _ _
    rfl
  · simp

theorem map_variableName_namedComponents :
    d.namedComponents.map NamedComponent.variableName =
      NameScope.bodyLocal.resolve (d.fields.map NamedParameter.name) := by
  unfold namedComponents
  apply map_zipWith_of_right
  · intro _ _
    rfl
  · simp

theorem not_mem_of_mem_namedComponents {w : NamedComponent} (h : w ∈ d.namedComponents) :
    w.variableName ∉ ["data", "parts"] := by
  have hresolved := List.mem_map_of_mem (f := NamedComponent.variableName) h
  rw [map_variableName_namedComponents] at hresolved
  have hown : ["data", "parts"] ⊆ NameScope.bodyLocal.reserved := by decide
  exact fun hmem => NameScope.bodyLocal.not_mem_reserved_of_mem_resolve hresolved (hown hmem)

/-- The fields of a struct that a registry defines are resolved for classes. -/
theorem exists_resolve_of_mem_run {calls : List StructRegistry.Call} {d : StructDefinition}
    (hd : d ∈ (StructRegistry.run calls).definitions) :
    ∃ names, d.fields.map NamedParameter.name = NameScope.property.resolve names := by
  obtain ⟨p, taken, n, -, rfl⟩ := StructRegistry.of_mem_definitions_run hd
  exact ⟨_, NameScope.property.map_name_nameParameters "field" p.components⟩

end StructDefinition

/-! ## Fields -/

namespace StructRegistry

variable (r : StructRegistry) (d : StructDefinition)

/-- The field of a component, which is read from the part at its position. -/
def structField (position : Nat) (w : NamedComponent) : StructField where
  field := w.field
  variableName := w.variableName
  type := r.valueType w.component
  decoding := r.decode (r.valueType w.component) (partText position)
  encoding := w.component.encode ("this." ++ w.field)

theorem fields_structClass :
    (r.structClass d).fields = d.namedComponents.mapIdx r.structField := by
  rw [structClass, StructDefinition.namedComponents]
  apply List.ext_getElem
  · simp
  · intro i _ _
    simp [structField]

/-- What is read off a field without its position follows the components. -/
theorem map_fields_structClass {α : Type} {g : StructField → α} {h : NamedComponent → α}
    (hg : ∀ i w, g (r.structField i w) = h w) :
    (r.structClass d).fields.map g = d.namedComponents.map h := by
  rw [fields_structClass]
  apply List.ext_getElem
  · simp
  · intro i _ _
    simp [hg]

theorem accesses_structClass :
    (r.structClass d).fields.map (·.decoding.access) =
      (List.range d.namedComponents.length).map partText := by
  rw [fields_structClass]
  apply List.ext_getElem
  · simp
  · intro i _ _
    simp [structField]

theorem readings_structClass :
    (r.structClass d).fields.map (fun f =>
        "    const " ++ f.variableName ++ ": " ++ f.type.text ++ " = " ++ f.decoding.text) =
      d.namedComponents.mapIdx r.partReading := by
  rw [fields_structClass, map_mapIdx, List.mapIdx_eq_mapIdx_iff]
  intro i _
  rw [partReading, ← text_decode]
  rfl

theorem length_fields_structClass :
    (r.structClass d).fields.length = d.namedComponents.length := by
  rw [fields_structClass, List.length_mapIdx]

end StructRegistry

/-! ## The class -/

theorem Template.fill_structClass (value : Slot → String) :
    structClass.fill value =
      "export class " ++ value .className ++ " \x7b\n" ++ value .fields ++ "\n\n"
        ++ "  constructor(" ++ value .constructorParameters ++ ") \x7b\n" ++ value .assignments
        ++ "\n  \x7d\n\n" ++ "  static parse(data: string): " ++ value .className ++ " \x7b\n"
        ++ "    const parts = parseCSVNotNullable(data)\n" ++ "    if (parts.length !== "
        ++ value .componentCount ++ ") throw new Error('Invalid data for tuple parsing')\n"
        ++ value .parseLines ++ "\n" ++ "    return new " ++ value .className ++ "("
        ++ value .constructorArguments ++ ")\n  \x7d\n\n"
        ++ "  toEvmEncodeParams(): EvmEncodeParam[] \x7b\n    return [\n" ++ value .encodings
        ++ "\n    ]\n  \x7d\n\x7d" := by
  have hend (s : String) : Text.trimEnd (s ++ "\n    ]\n  \x7d\n\x7d\n") =
      s ++ "\n    ]\n  \x7d\n\x7d" := by
    have hbrace := ContractClass.trimEnd_append_brace (s ++ "\n    ]\n  \x7d")
    simpa [String.append_assoc] using hbrace
  have hnil : "".intercalate [] = "" := rfl
  refine Eq.trans (congrArg Text.trimEnd ?_) (hend _)
  simp only [structClass, List.map_cons, List.map_nil, pieceText, concat_cons, hnil,
    String.append_assoc, String.append_empty]

namespace StructRegistry

variable (r : StructRegistry) (d : StructDefinition)

theorem text_structClass :
    (r.structClass d).text = r.structText d.className d.namedComponents := by
  have hname : (r.structClass d).name = d.className := rfl
  have hfields : (r.structClass d).fields.map (fun f =>
      "  readonly " ++ f.field ++ ": " ++ f.type.text) = d.namedComponents.map fun w =>
      "  readonly " ++ w.field ++ ": " ++ (r.valueType w.component).text :=
    r.map_fields_structClass d fun _ _ => rfl
  have hparameters : (r.structClass d).fields.map (fun f =>
      f.variableName ++ ": " ++ f.type.text) = d.namedComponents.map fun w =>
      w.variableName ++ ": " ++ (r.valueType w.component).text :=
    r.map_fields_structClass d fun _ _ => rfl
  have hassignments : (r.structClass d).fields.map (fun f =>
      "    this." ++ f.field ++ " = " ++ f.variableName) = d.namedComponents.map fun w =>
      "    this." ++ w.field ++ " = " ++ w.variableName :=
    r.map_fields_structClass d fun _ _ => rfl
  have harguments : (r.structClass d).fields.map StructField.variableName =
      d.namedComponents.map NamedComponent.variableName :=
    r.map_fields_structClass d fun _ _ => rfl
  have hencodings : (r.structClass d).fields.map (fun f => "      " ++ f.encoding.text ++ ",") =
      d.namedComponents.map fun w =>
        "      " ++ w.component.encodedText ("this." ++ w.field) ++ "," :=
    r.map_fields_structClass d fun _ w => by rw [← w.component.text_encode]; rfl
  rw [StructClass.text, Template.fill_structClass]
  dsimp only
  rw [hname, hfields, hparameters, hassignments, readings_structClass, harguments, hencodings,
    length_fields_structClass]
  rfl

theorem wired_structClass {calls : List Call} (hd : d ∈ (run calls).definitions) :
    (r.structClass d).Wired r d d.namedComponents where
  components := d.map_component_namedComponents
  fieldsApart := by
    obtain ⟨names, hnames⟩ := StructDefinition.exists_resolve_of_mem_run hd
    rw [d.map_field_namedComponents, hnames]
    exact NameScope.property.nodup_resolve names
  fieldsFree w hw := by
    obtain ⟨names, hnames⟩ := StructDefinition.exists_resolve_of_mem_run hd
    have hfield := List.mem_map_of_mem (f := NamedComponent.field) hw
    rw [d.map_field_namedComponents, hnames] at hfield
    exact NameScope.property.not_mem_reserved_of_mem_resolve hfield
  variablesApart := by
    rw [d.map_variableName_namedComponents]
    exact NameScope.bodyLocal.nodup_resolve _
  variablesFree w hw := d.not_mem_of_mem_namedComponents hw
  inTurn := r.accesses_structClass d
  inRange f hf := by
    have hread : f.decoding.access ∈ (List.range d.namedComponents.length).map partText :=
      r.accesses_structClass d ▸ List.mem_map_of_mem (f := (·.decoding.access)) hf
    obtain ⟨k, hk, heq⟩ := List.mem_map.mp hread
    exact ⟨k, List.mem_range.mp hk, heq.symm⟩
  operands := r.map_fields_structClass d fun _ w => w.component.operand_encode _
  signatures := r.map_fields_structClass d fun _ w => w.component.signature_encode _
  rendered := by rw [renderTemplate_structClass, text_structClass]

end StructRegistry

/-! ## The statement -/

/-- The class of each struct that a registry defines is wired to its components, whatever the
registry was made from. -/
theorem StructRegistry.struct_classes_are_wired (calls : List Call) :
    List.Forall₂ (fun d k => k.Wired (run calls) d d.namedComponents) (run calls).definitions
      (run calls).structClasses := by
  rw [structClasses, List.forall₂_map_right_iff, List.forall₂_same]
  exact fun d hd => (run calls).wired_structClass d hd

/-- Components without a name, with a repeated one, and called like a member or a variable of the
class: fields and variables give way apart from each other. -/
example :
    let d := StructDefinition.ofComponents "Key" none
      [{ typeText := "address" }, { name := "parse", typeText := "bool" },
        { name := "parts", typeText := "uint8" }, { name := "parts", typeText := "uint8[]" }]
    d.namedComponents.map (fun w => (w.field, w.variableName)) =
      [("field0", "field0"), ("parse_prop", "parse_prop"), ("parts", "parts_var"),
        ("parts_prop1", "parts_prop1")] := by
  decide +kernel

end AbiBindings
