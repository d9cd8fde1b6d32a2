import AbiBindings.Emit.SourceFile
import AbiBindings.Proofs.Names.Resolution

/-! # What the classes of a file are made of

Each part of a class follows the list it is made from: a method's parameters the inputs of the
function, a struct class's fields the fields of the definition, an event class's fields the inputs
of the event. Nothing is lost where several lists are taken together, because resolving names and
laying out topics and data keep the length. -/

namespace AbiBindings
namespace StructRegistry
set_option autoImplicit false

variable (r : StructRegistry)

/-! ## Methods -/

theorem of_mem_methodParameters {f : ContractFunction} {p : Parameter}
    (h : p ∈ f.methodParameters) : p ∈ f.inputs ∨ p = amountParameter := by
  rcases List.mem_append.mp h with h | h
  · exact .inl h
  · split at h
    · exact .inr (List.mem_singleton.mp h)
    · simp at h

@[simp] theorem names_method (f : ContractFunction) (name : String) :
    (r.method f name).parameters.map TypedName.name =
      f.namedParameters.map NamedParameter.name := by
  rw [method, List.map_map]
  rfl

@[simp] theorem types_method (f : ContractFunction) (name : String) :
    (r.method f name).parameters.map TypedName.type = f.methodParameters.map r.valueType := by
  rw [method, List.map_map, ← NameScope.parameter.map_parameter_nameParameters "param"
    f.methodParameters, List.map_map]
  rfl

/-! ## Struct classes -/

theorem of_mem_fields_structClass {d : StructDefinition} {f : StructField}
    (h : f ∈ (r.structClass d).fields) :
    ∃ p ∈ d.fields, ∃ i : Nat, f.field = p.name ∧
      f.variableName ∈ NameScope.bodyLocal.resolve (d.fields.map NamedParameter.name) ∧
      f.type = r.valueType p.parameter ∧
      f.decoding = r.decode (r.valueType p.parameter) (partText i) ∧
      f.encoding = p.parameter.encode ("this." ++ p.name) := by
  rw [structClass, List.mem_mapIdx] at h
  obtain ⟨i, hi, rfl⟩ := h
  obtain ⟨hp, hvariable⟩ := List.of_mem_zip (List.getElem_mem hi)
  exact ⟨_, hp, i, rfl, hvariable, rfl, rfl, rfl⟩

theorem keeps_structField {P : String → Prop} (hP : KeptByEndings P) {d : StructDefinition}
    (hd : ∀ p ∈ d.fields, P p.name) {f : StructField} (hf : f ∈ (r.structClass d).fields) :
    P f.field ∧ P f.variableName := by
  obtain ⟨p, hp, i, hfield, hvariable, -⟩ := r.of_mem_fields_structClass hf
  refine ⟨hfield ▸ hd p hp, hP.of_mem_resolve ?_ hvariable⟩
  exact List.forall_mem_map.mpr hd

@[simp] theorem variableNames_structClass (d : StructDefinition) :
    (r.structClass d).fields.map StructField.variableName =
      NameScope.bodyLocal.resolve (d.fields.map NamedParameter.name) := by
  apply List.ext_getElem
  · simp [structClass]
  · intro i _ _
    simp [structClass]

/-! ## Event classes -/

@[simp] theorem length_eventSources (shared : Bool) (topic position : Nat)
    (inputs : List Parameter) :
    (r.eventSources shared topic position inputs).length = inputs.length := by
  induction inputs generalizing topic position with
  | nil => rfl
  | cons p rest ih =>
    rw [eventSources]
    split
    · simp [ih]
    · split <;> simp [ih]

@[simp] theorem length_fields_eventClass (e : ContractEvent) (name : String) :
    (r.eventClass e name).fields.length = e.inputs.length := by
  simp [eventClass]

@[simp] theorem variableNames_eventClass (e : ContractEvent) (name : String) :
    (r.eventClass e name).fields.map EventField.variableName =
      NameScope.bodyLocal.resolve
        ((NameScope.property.nameParameters "param" e.inputs).map NamedParameter.name) := by
  apply List.ext_getElem
  · simp
  · intro i _ _
    simp [eventClass]

@[simp] theorem types_eventClass (e : ContractEvent) (name : String) :
    (r.eventClass e name).fields.map EventField.type = e.inputs.map r.fieldType := by
  apply List.ext_getElem
  · simp
  · intro i _ hi
    have hinput := NameScope.property.parameter_getElem_nameParameters "param" (i := i)
      (by simpa using hi) (by simpa using hi)
    simp [eventClass, hinput]

@[simp] theorem sources_eventClass (e : ContractEvent) (name : String) :
    (r.eventClass e name).fields.map EventField.source =
      r.eventSources (1 < e.dataInputs.length) (if e.anonymous then 0 else 1) 0 e.inputs := by
  apply List.ext_getElem
  · simp
  · intro i _ _
    simp [eventClass]

theorem keeps_eventField {P : String → Prop} (hP : KeptByEndings P) (hparam : P "param")
    {e : ContractEvent} (he : ∀ p ∈ e.inputs, p.name = "" ∨ P p.name) {name : String}
    {f : EventField} (hf : f ∈ (r.eventClass e name).fields) : P f.field ∧ P f.variableName := by
  have hnamed : ∀ p ∈ NameScope.property.nameParameters "param" e.inputs, P p.name :=
    fun p hp => hP.of_mem_nameParameters (fun q hq => hP.of_nameOr hparam (he q hq)) hp
  obtain ⟨⟨⟨p, variableName⟩, source⟩, hmem, rfl⟩ := List.mem_map.mp hf
  obtain ⟨hp, hvariable⟩ := List.of_mem_zip (List.of_mem_zip hmem).1
  exact ⟨hnamed p hp, hP.of_mem_resolve (List.forall_mem_map.mpr hnamed) hvariable⟩

/-- Where the value of an input is read from. -/
theorem of_mem_eventSources {shared : Bool} {topic position : Nat} {inputs : List Parameter}
    {s : EventSource} (h : s ∈ r.eventSources shared topic position inputs) :
    ∃ p ∈ inputs, (∃ k, p.isHashedTopic = true ∧ s = .hash k) ∨
      (∃ k, p.isHashedTopic = false ∧
        s = .topic k p.canonicalType (r.conversion (r.fieldType p).text)) ∨
      ∃ access, p.indexed = false ∧ (access = "decodedData" ∨ ∃ k, access = partText k) ∧
        s = .data (r.decode (r.fieldType p) access) := by
  induction inputs generalizing topic position with
  | nil => simp [eventSources] at h
  | cons p rest ih =>
    have hrest {topic position : Nat} (h : s ∈ r.eventSources shared topic position rest) :=
      (ih h).imp fun q hq => And.intro (List.mem_cons_of_mem p hq.1) hq.2
    rw [eventSources] at h
    by_cases hhash : p.isHashedTopic = true
    · rw [if_pos hhash] at h
      rcases List.mem_cons.mp h with rfl | h
      · exact ⟨p, List.mem_cons_self, .inl ⟨_, hhash, rfl⟩⟩
      · exact hrest h
    · rw [if_neg hhash] at h
      split at h
      · rcases List.mem_cons.mp h with rfl | h
        · exact ⟨p, List.mem_cons_self, .inr (.inl ⟨_, by simpa using hhash, rfl⟩)⟩
        · exact hrest h
      · rename_i hindexed
        rcases List.mem_cons.mp h with rfl | h
        · refine ⟨p, List.mem_cons_self, .inr (.inr ⟨_, by simpa using hindexed, ?_, rfl⟩)⟩
          split
          · exact .inr ⟨position, rfl⟩
          · exact .inl rfl
        · exact hrest h

/-! ## Classes of a contract -/

theorem of_mem_methods {c : Contract} {name : String} {m : Method}
    (h : m ∈ (r.contractClass c name).methods) :
    ∃ f ∈ c.functions, ∃ chosen ∈ NameScope.method.resolve (c.functions.map ContractFunction.name),
      m = r.method f chosen := by
  rw [contractClass, List.mem_iff_getElem] at h
  obtain ⟨i, hi, rfl⟩ := h
  simp only [List.getElem_zipWith]
  exact ⟨_, List.getElem_mem _, _, List.getElem_mem _, rfl⟩

theorem of_mem_eventClasses {events : List ContractEvent} {k : EventClass}
    (h : k ∈ r.eventClasses events) :
    ∃ e ∈ events, ∃ chosen ∈ uniqueNames r.taken (events.map ContractEvent.classStem),
      k = r.eventClass e chosen := by
  rw [eventClasses, List.mem_iff_getElem] at h
  obtain ⟨i, hi, rfl⟩ := h
  simp only [List.getElem_zipWith]
  exact ⟨_, List.getElem_mem _, _, List.getElem_mem _, rfl⟩

end StructRegistry
end AbiBindings
