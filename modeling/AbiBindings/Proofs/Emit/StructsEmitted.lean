import AbiBindings.Proofs.Emit.ClassShapes
import AbiBindings.Proofs.Emit.NamedTypes
import AbiBindings.Proofs.Emit.Rendering

/-! # Struct classes are resolved and emitted

In the bindings of a contract every declared type belongs to a parameter that the registry maps, or
is elementary (`origin_of_mem_valueTypes`). Together with the closure of the registry this gives
the statement for whole files: a struct is unknown only where a tuple has no components, and every
struct class that a file names is one of the classes that the file emits. -/

namespace AbiBindings
namespace Contract
set_option autoImplicit false

variable {c : Contract} {library name : String}

/-! ## Where declared types come from -/

/-- A type that the bindings of a contract declare: that of a mapped parameter, an elementary one,
or the class of a function's outputs. -/
inductive TypeOrigin (r : StructRegistry) (c : Contract) : ValueType → Prop where
  | mapped {p : Parameter} (hp : r.Maps c p) : TypeOrigin r c (r.valueType p)
  | elementary (type : ElementaryType) : TypeOrigin r c (.ofElementary type)
  | outputs {d : StructDefinition} (hd : d ∈ r.definitions) :
      TypeOrigin r c { base := .struct d.className }

theorem valueType_amountParameter (r : StructRegistry) :
    r.valueType amountParameter = .ofElementary .bigInt := by
  have hnone : TypeText.lastLevel? amountParameter.typeText.toList = none := by decide
  have hshape : amountParameter.shape = .elementary "uint256" := by
    rw [Parameter.shape, TypeShape.ofText, TypeShape.ofChars_of_none hnone, if_neg (by decide)]
    rfl
  have htype : ElementaryType.ofText? "uint256" = some .bigInt := by decide +kernel
  simp only [StructRegistry.valueType, StructRegistry.valueBase, hshape, TypeShape.innermost, htype]
  rfl

theorem resolves_structs {p : Parameter} (hp : (c.structs name).Maps c p) :
    (c.structs name).Resolves p := by
  rw [structs_eq] at hp ⊢
  exact StructRegistry.resolves_of_maps (StructRegistry.definitions_reserveAll _ _) hp

theorem origin_returnType {f : ContractFunction} (hf : f ∈ c.functions) :
    TypeOrigin (c.structs name) c ((c.structs name).returnType f) := by
  unfold StructRegistry.returnType
  split
  · exact .elementary .bool
  · rename_i output houtputs
    exact .mapped (.output hf (by simp [houtputs]))
  · rename_i hnil hsingle
    have hlen : 1 < f.outputs.length := by
      match h : f.outputs with
      | [] => exact absurd h hnil
      | [output] => exact absurd h (hsingle output)
      | _ :: _ :: _ => simp
    have hne : f.outputsParameter.components ≠ [] := by
      intro hnil
      rw [show f.outputs = [] from hnil] at hlen
      simp at hlen
    obtain ⟨d, hd⟩ : ∃ d, (c.structs name).find? f.outputsParameter = some d :=
      resolves_structs (.outputs hf hlen) f.isTuple_outputsParameter hne
    rw [StructRegistry.outputsClass?, StructRegistry.classFor?, hd]
    exact .outputs (StructRegistry.find?_eq_some hd).1

theorem origin_fieldType {r : StructRegistry} {e : ContractEvent} (he : e ∈ c.events)
    {p : Parameter} (hp : p ∈ e.inputs) : TypeOrigin r c (r.fieldType p) := by
  rw [StructRegistry.fieldType]
  split
  · exact .elementary .bytes
  · rename_i hhash
    exact .mapped (.eventInput he hp (by simpa using hhash))

theorem origin_of_mem_method {f : ContractFunction} (hf : f ∈ c.functions) {chosen : String}
    {t : ValueType} (ht : t ∈ ((c.structs name).method f chosen).valueTypes) :
    TypeOrigin (c.structs name) c t := by
  rcases List.mem_append.mp ht with ht | ht
  · rw [StructRegistry.types_method] at ht
    obtain ⟨p, hp, rfl⟩ := List.mem_map.mp ht
    rcases StructRegistry.of_mem_methodParameters hp with hp | rfl
    · exact .mapped (.input hf hp)
    · rw [valueType_amountParameter]
      exact .elementary .bigInt
  · unfold StructRegistry.method StructRegistry.methodBody at ht
    split at ht
    · rename_i hbody
      split at hbody
      · simp at hbody
      · obtain ⟨rfl, -⟩ : (c.structs name).returnType f = _ ∧ _ := by simpa using hbody
        rw [List.mem_singleton.mp ht]
        exact origin_returnType hf
    · simp at ht

theorem origin_of_mem_valueTypes {t : ValueType} (ht : t ∈ (c.bindings library name).valueTypes) :
    TypeOrigin (c.structs name) c t := by
  rcases List.mem_append.mp ht with ht | ht
  · rcases List.mem_append.mp ht with ht | ht
    · obtain ⟨m, hm, ht⟩ := List.mem_flatMap.mp ht
      obtain ⟨f, hf, chosen, -, rfl⟩ := StructRegistry.of_mem_methods _ hm
      exact origin_of_mem_method hf ht
    · obtain ⟨s, hs, ht⟩ := List.mem_flatMap.mp ht
      obtain ⟨d, hd, rfl⟩ := List.mem_map.mp hs
      obtain ⟨k, hk, rfl⟩ := List.mem_map.mp ht
      obtain ⟨p, hp, i, -, -, htype, -⟩ := StructRegistry.of_mem_fields_structClass _ hk
      rw [htype]
      exact .mapped (.component hd (List.mem_map_of_mem hp))
  · obtain ⟨k, hk, ht⟩ := List.mem_flatMap.mp ht
    obtain ⟨e, he, chosen, -, rfl⟩ := StructRegistry.of_mem_eventClasses _ hk
    rw [StructRegistry.types_eventClass] at ht
    obtain ⟨p, hp, rfl⟩ := List.mem_map.mp ht
    exact origin_fieldType he hp

/-! ## Unknown types and warnings -/

/-- Where all tuples have components, only elementary types can be unknown. -/
theorem unknownType_of_mem_valueTypes (hc : c.Filled) {t : ValueType}
    (ht : t ∈ (c.bindings library name).valueTypes) {w : Warning} (hw : t.base = .unknown w) :
    ∃ s, w = .unknownType s := by
  cases origin_of_mem_valueTypes ht with
  | @mapped p hp =>
    exact StructRegistry.unknownType_of_valueBase (resolves_structs hp) (hc.of_maps hp).here hw
  | elementary type => simp [ValueType.ofElementary] at hw
  | outputs hd => simp at hw

theorem base_eq_of_mem_warnings {t : ValueType} {w : Warning} (h : w ∈ t.warnings) :
    t.base = .unknown w := by
  unfold ValueType.warnings ValueBase.warnings at h
  split at h
  · rename_i cause hbase
    rw [hbase, List.mem_singleton.mp h]
  · simp at h

theorem unknownType_of_mem_encoding {e : Encoding} {w : Warning} (h : w ∈ e.warnings) :
    ∃ s, w = .unknownType s := by
  induction e with
  | single typeName value =>
    rw [Encoding.warnings] at h
    split at h
    · exact ⟨typeName, List.mem_singleton.mp h⟩
    · simp at h
  | struct value => simp [Encoding.warnings] at h
  | each signature value item inner ih => exact ih h

/-- A warning is about a declared type, or it is that an elementary type is unknown. -/
theorem declared_of_mem_warnings {f : SourceFile} {w : Warning} (h : w ∈ f.warnings) :
    (∃ t ∈ f.valueTypes, t.base = .unknown w) ∨ ∃ s, w = .unknownType s := by
  simp only [SourceFile.warnings, ContractClass.warnings, StructClass.warnings, EventClass.warnings,
    Method.warnings, List.mem_append, List.mem_flatMap] at h
  simp only [SourceFile.valueTypes, Method.valueTypes, List.mem_append, List.mem_flatMap,
    List.mem_map]
  rcases h with (⟨m, hm, (⟨p, hp, hw⟩ | ⟨e, -, hw⟩) | hw⟩ | ⟨s, hs, k, hk, hw | hw⟩) |
    ⟨e, he, k, hk, hw⟩
  · exact .inl ⟨p.type, .inl (.inl ⟨m, hm, .inl ⟨p, hp, rfl⟩⟩), base_eq_of_mem_warnings hw⟩
  · exact .inr (unknownType_of_mem_encoding hw)
  · split at hw
    · rename_i returns _ hbody
      refine .inl ⟨returns, .inl (.inl ⟨m, hm, .inr ?_⟩), base_eq_of_mem_warnings hw⟩
      simp [hbody]
    · simp at hw
  · exact .inl ⟨k.type, .inl (.inr ⟨s, hs, k, hk, rfl⟩), base_eq_of_mem_warnings hw⟩
  · exact .inr (unknownType_of_mem_encoding hw)
  · exact .inl ⟨k.type, .inr ⟨e, he, k, hk, rfl⟩, base_eq_of_mem_warnings hw⟩

/-! ## Named classes -/

theorem exists_structClass {d : StructDefinition} (hd : d ∈ (c.structs name).definitions) :
    ∃ s ∈ (c.bindings library name).structs, s.name = d.className :=
  ⟨_, List.mem_map_of_mem hd, rfl⟩

theorem exists_structClass_of_declared {t : ValueType}
    (ht : t ∈ (c.bindings library name).valueTypes) {n : String} (hn : t.base = .struct n) :
    ∃ s ∈ (c.bindings library name).structs, s.name = n := by
  cases origin_of_mem_valueTypes ht with
  | @mapped p hp =>
    obtain ⟨d, hd, rfl⟩ := StructRegistry.exists_definition_of_struct hn
    exact exists_structClass hd
  | elementary type => simp [ValueType.ofElementary] at hn
  | @outputs d hd =>
    obtain rfl : d.className = n := by simpa using hn
    exact exists_structClass hd

theorem of_mem_decodings_method {r : StructRegistry} {f : ContractFunction} {chosen : String}
    {d : Decoding} (hd : d ∈ (r.method f chosen).decodings) :
    ∃ t ∈ (r.method f chosen).valueTypes, ∃ access, d = r.decode t access := by
  simp only [Method.decodings, Method.valueTypes, StructRegistry.method,
    StructRegistry.methodBody] at hd ⊢
  split at hd
  · rename_i returns signature decoding hbody
    split at hbody
    · simp at hbody
    · split at hbody
      · simp at hbody
      · rename_i hwrite _
        obtain ⟨-, -, rfl⟩ : _ ∧ _ ∧ r.decode (r.returnType f) "decodedResponse" = decoding := by
          simpa using hbody
        rw [List.mem_singleton.mp hd]
        refine ⟨r.returnType f, List.mem_append_right _ ?_, _, rfl⟩
        simp [hwrite]
  · simp at hd

theorem declared_of_mem_decodings {d : Decoding} (hd : d ∈ (c.bindings library name).decodings) :
    ∃ t ∈ (c.bindings library name).valueTypes, ∃ access,
      d = (c.structs name).decode t access := by
  rcases List.mem_append.mp hd with hd | hd
  · rcases List.mem_append.mp hd with hd | hd
    · obtain ⟨m, hm, hdm⟩ := List.mem_flatMap.mp hd
      obtain ⟨f, -, chosen, -, rfl⟩ := StructRegistry.of_mem_methods _ hm
      obtain ⟨t, ht, access, rfl⟩ := of_mem_decodings_method hdm
      exact ⟨t, List.mem_append_left _ (List.mem_append_left _ (List.mem_flatMap.mpr ⟨_, hm, ht⟩)),
        access, rfl⟩
    · obtain ⟨s, hs, hds⟩ := List.mem_flatMap.mp hd
      obtain ⟨k, hk, rfl⟩ := List.mem_map.mp hds
      refine ⟨k.type, List.mem_append_left _ (List.mem_append_right _
        (List.mem_flatMap.mpr ⟨s, hs, List.mem_map_of_mem hk⟩)), ?_⟩
      obtain ⟨definition, -, rfl⟩ := List.mem_map.mp hs
      obtain ⟨p, -, i, -, -, htype, hdecoding, -⟩ := StructRegistry.of_mem_fields_structClass _ hk
      exact ⟨partText i, by rw [hdecoding, htype]⟩
  · obtain ⟨k, hk, hdk⟩ := List.mem_flatMap.mp hd
    obtain ⟨field, hfield, hdecoding⟩ := List.mem_filterMap.mp hdk
    obtain ⟨e, -, chosen, -, rfl⟩ := StructRegistry.of_mem_eventClasses _ hk
    have hsource := List.mem_map_of_mem (f := EventField.source) hfield
    rw [StructRegistry.sources_eventClass] at hsource
    obtain ⟨p, hp, ⟨_, -, hs⟩ | ⟨_, -, hs⟩ | ⟨access, -, -, hs⟩⟩ :=
      StructRegistry.of_mem_eventSources _ hsource
    · simp [hs, EventSource.decoding?] at hdecoding
    · simp [hs, EventSource.decoding?] at hdecoding
    · rw [hs, EventSource.decoding?, Option.some.injEq] at hdecoding
      refine ⟨_, List.mem_append_right _ (List.mem_flatMap.mpr ⟨_, hk, ?_⟩), access,
        hdecoding.symm⟩
      rw [StructRegistry.types_eventClass]
      exact List.mem_map_of_mem hp

theorem exists_conversion_of_mem {k : Conversion}
    (hk : k ∈ (c.bindings library name).conversions) :
    ∃ t, k = (c.structs name).conversion t := by
  rcases List.mem_append.mp hk with hk | hk
  · obtain ⟨d, hd, rfl⟩ := List.mem_map.mp hk
    obtain ⟨t, -, access, rfl⟩ := declared_of_mem_decodings hd
    exact ⟨_, StructRegistry.conversion_decoding _ _ _ _⟩
  · obtain ⟨s, hs, hks⟩ := List.mem_flatMap.mp hk
    obtain ⟨field, hfield, hconversion⟩ := List.mem_filterMap.mp hks
    obtain ⟨e, -, chosen, -, rfl⟩ := StructRegistry.of_mem_eventClasses _ hs
    have hsource := List.mem_map_of_mem (f := EventField.source) hfield
    rw [StructRegistry.sources_eventClass] at hsource
    obtain ⟨p, -, ⟨_, -, hs⟩ | ⟨_, -, hs⟩ | ⟨access, -, -, hs⟩⟩ :=
      StructRegistry.of_mem_eventSources _ hsource
    · simp [hs, EventSource.conversion?] at hconversion
    · exact ⟨_, by simpa [hs, EventSource.conversion?] using hconversion.symm⟩
    · simp [hs, EventSource.conversion?] at hconversion

theorem exists_structClass_of_named {n : String}
    (hn : (c.bindings library name).NamesStruct n) :
    ∃ s ∈ (c.bindings library name).structs, s.name = n := by
  cases hn with
  | declared ht hn => exact exists_structClass_of_declared ht hn
  | reader hk hi hu =>
    obtain ⟨t, ht⟩ := exists_conversion_of_mem hk
    rcases StructRegistry.exists_definition_of_conversion ht.symm with rfl | rfl | ⟨d, hd, rfl⟩
    · exact absurd rfl hi
    · exact absurd rfl hu
    · exact exists_structClass hd

/-- A class of a struct stands among the texts of its file, and begins with its declaration. -/
theorem exists_classText {f : SourceFile} {s : StructClass} (hs : s ∈ f.structs) :
    ∃ text ∈ f.classTexts, text = s.text ∧ (classHead s.name).toList <+: text.toList := by
  refine ⟨s.text, ?_, rfl, Template.prefix_fill rfl rfl⟩
  exact List.mem_cons_of_mem _ (List.mem_append_left _ (List.mem_map_of_mem hs))

/-! ## The statement -/

end Contract
end AbiBindings
