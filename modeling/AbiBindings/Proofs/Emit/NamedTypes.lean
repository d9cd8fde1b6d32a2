import AbiBindings.Emit.SourceFile
import AbiBindings.Proofs.Struct.Coverage

/-! # The types that a source file names

The declared types of a file (`SourceFile.valueTypes`) are those of the parameters that its
registry maps, beside a few elementary ones (`Contract.origin_of_mem_valueTypes`). So in the
bindings of a contract whose tuples all have components no struct is unknown, and every struct class
that is named, as a type or as the reader of a text, is one of the file's own. -/

namespace AbiBindings
set_option autoImplicit false

/-! ## What is named -/

/-- The conversion of the values inside all levels. -/
def Decoding.conversion : Decoding → Conversion
  | value conversion _ => conversion
  | each _ _ _ inner => inner.conversion

/-- The types that the split arrays are declared to have items of. -/
def Decoding.elementTypes : Decoding → List String
  | value _ _ => []
  | each _ elementType _ inner => elementType :: inner.elementTypes

namespace Method

/-- The types that a method declares. -/
def valueTypes (m : Method) : List ValueType :=
  m.parameters.map TypedName.type ++
    (match m.body with
      | .query returns _ => [returns]
      | .call _ => [])

/-- The decodings in a method. -/
def decodings (m : Method) : List Decoding :=
  match m.body with
  | .query _ (some (_, decoding)) => [decoding]
  | _ => []

end Method

namespace EventSource

/-- The decoding of a value in the data. -/
def decoding? : EventSource → Option Decoding
  | data decoding => some decoding
  | _ => none

/-- The conversion of a value among the topics, unless only its hash is known. -/
def conversion? : EventSource → Option Conversion
  | topic _ _ conversion => some conversion
  | _ => none

end EventSource

namespace SourceFile

/-- The types that a file declares variables, fields, parameters and results with. -/
def valueTypes (f : SourceFile) : List ValueType :=
  f.contract.methods.flatMap Method.valueTypes
    ++ f.structs.flatMap (fun s => s.fields.map StructField.type)
    ++ f.events.flatMap (fun e => e.fields.map EventField.type)

/-- The decodings in a file. -/
def decodings (f : SourceFile) : List Decoding :=
  f.contract.methods.flatMap Method.decodings
    ++ f.structs.flatMap (fun s => s.fields.map StructField.decoding)
    ++ f.events.flatMap (fun e => e.fields.filterMap (·.source.decoding?))

/-- The conversions that a file reads values with. -/
def conversions (f : SourceFile) : List Conversion :=
  f.decodings.map Decoding.conversion
    ++ f.events.flatMap (fun e => e.fields.filterMap (·.source.conversion?))

/-- A struct class that a file refers to: as a declared type, or as what parses a text. -/
inductive NamesStruct (f : SourceFile) : String → Prop where
  | declared {t : ValueType} {n : String} (ht : t ∈ f.valueTypes) (hn : t.base = .struct n) :
      NamesStruct f n
  | reader {n : String} (hn : .parse n ∈ f.conversions) (hi : n ≠ "i8") (hu : n ≠ "u8") :
      NamesStruct f n

end SourceFile

/-! ## Tuples with components -/

/-- Every tuple in the parameter, at any depth, has a component. -/
inductive Parameter.Filled : Parameter → Prop where
  | intro (p : Parameter) (here : p.isTuple = true → p.components ≠ [])
      (inside : ∀ q ∈ p.components, q.Filled) : p.Filled

theorem Parameter.Filled.here {p : Parameter} (h : p.Filled) :
    p.isTuple = true → p.components ≠ [] := by
  cases h
  assumption

theorem Parameter.Filled.inside {p : Parameter} (h : p.Filled) :
    ∀ q ∈ p.components, q.Filled := by
  cases h
  assumption

/-- Every tuple in the contract has a component. -/
structure Contract.Filled (c : Contract) : Prop where
  functions : ∀ f ∈ c.functions, ∀ p ∈ f.inputs ++ f.outputs, p.Filled
  events : ∀ e ∈ c.events, ∀ p ∈ e.inputs, p.Filled

theorem ContractFunction.isTuple_outputsParameter (f : ContractFunction) :
    f.outputsParameter.isTuple = true := by
  have hnone : TypeText.lastLevel? TypeShape.tupleText.toList = none := by decide
  simp only [Parameter.isTuple, Parameter.shape, ContractFunction.outputsParameter,
    TypeShape.ofText, TypeShape.ofChars_of_none hnone]
  rfl

namespace Contract

variable {c : Contract}

/-! ## Where structs come from -/

/-- What holds of the parameters of functions, of their outputs taken together and of the inputs of
events holds of all parameters that are registered. -/
theorem forall_visited {P : Parameter → Prop}
    (hfunctions : ∀ f ∈ c.functions, ∀ p ∈ f.inputs ++ f.outputs, P p)
    (houtputs : ∀ f ∈ c.functions, f.hasOutputsStruct = true → P f.outputsParameter)
    (hevents : ∀ e ∈ c.events, ∀ p ∈ e.inputs, P p) :
    ∀ p ∈ c.functions.flatMap StructRegistry.structParameters
      ++ c.events.flatMap StructRegistry.eventParameters, P p := by
  intro p hp
  rcases List.mem_append.mp hp with hp | hp
  · obtain ⟨f, hf, hp⟩ := List.mem_flatMap.mp hp
    rcases List.mem_append.mp hp with hp | hp
    · exact hfunctions f hf p hp
    · split at hp
      · rename_i hstruct
        rw [List.mem_singleton.mp hp]
        exact houtputs f hf hstruct
      · simp at hp
  · obtain ⟨e, he, hp⟩ := List.mem_flatMap.mp hp
    exact hevents e he p (List.mem_filter.mp hp).1

theorem structs_eq (c : Contract) (name : String) :
    c.structs name =
      (({} : StructRegistry).reserveAll (name :: LibrarySymbol.names)).extract c := by
  rw [structs, StructRegistry.reserveAll, StructRegistry.reserveAll, List.foldl_cons]

/-- Every struct class is that of a tuple which was registered, or of one inside. -/
theorem exists_origin {P : Parameter → Prop} (hP : StructRegistry.Hereditary P)
    (hvisited : ∀ p ∈ c.functions.flatMap StructRegistry.structParameters
      ++ c.events.flatMap StructRegistry.eventParameters, P p)
    {name : String} {d : StructDefinition} (hd : d ∈ (c.structs name).definitions) :
    ∃ (p : Parameter) (taken : List String) (n : Nat), P p ∧ p.isTuple = true ∧
      d = .ofComponents (uniqueName taken (p.structName?.getD ("Tuple" ++ toString n)))
        p.structName? p.components := by
  rw [structs_eq] at hd
  have hsteps := StructRegistry.registerAll_defines hP hvisited
    (({} : StructRegistry).reserveAll (name :: LibrarySymbol.names))
  refine (StructRegistry.mem_definitions_of_defines hsteps hd).resolve_left fun h => ?_
  simp [StructRegistry.definitions_reserveAll] at h

/-- The functions' outputs parameters are filled when they stand for outputs at all. -/
theorem Filled.visited (h : c.Filled) :
    ∀ p ∈ c.functions.flatMap StructRegistry.structParameters
      ++ c.events.flatMap StructRegistry.eventParameters, p.Filled := by
  refine forall_visited h.functions (fun f hf hstruct => .intro _ (fun _ hnil => ?_) ?_) h.events
  · have hlen : 1 < f.outputs.length := by simpa [ContractFunction.hasOutputsStruct] using hstruct
    rw [show f.outputs = [] from hnil] at hlen
    simp at hlen
  · exact fun q hq => h.functions f hf q (List.mem_append_right _ hq)

theorem Filled.of_maps (h : c.Filled) {name : String} {p : Parameter}
    (hp : (c.structs name).Maps c p) : p.Filled := by
  rcases StructRegistry.mem_visited_of_maps hp with hp | ⟨d, hd, hp⟩
  · exact h.visited p hp
  · obtain ⟨q, _, _, hq, -, rfl⟩ := exists_origin (fun _ hp => hp.inside) h.visited hd
    rw [StructDefinition.parameters_ofComponents] at hp
    exact hq.inside p hp

end Contract

/-! ## Types and conversions of a registry -/

namespace StructRegistry

variable {r : StructRegistry}

theorem exists_definition_of_struct {p : Parameter} {n : String}
    (h : r.valueBase p = .struct n) : ∃ d ∈ r.definitions, d.className = n := by
  unfold valueBase at h
  split at h
  · split at h <;> simp at h
  · split at h
    · rename_i className hclass
      obtain ⟨d, hd, rfl⟩ := Option.map_eq_some_iff.mp hclass
      exact ⟨d, (find?_eq_some hd).1, by simpa using h⟩
    · simp at h

theorem unknownType_of_valueBase {p : Parameter} (hr : r.Resolves p)
    (hp : p.isTuple = true → p.components ≠ []) {w : Warning}
    (h : r.valueBase p = .unknown w) : ∃ s, w = .unknownType s := by
  unfold valueBase at h
  split at h
  · rename_i s _
    split at h
    · simp at h
    · exact ⟨s, by simpa using h.symm⟩
  · rename_i hshape
    have ht : p.isTuple = true := by
      rcases p.shape.innermost_eq with ⟨-, ht⟩ | ⟨s, hs, -⟩
      · exact ht
      · exact absurd hs (hshape s)
    obtain ⟨d, hd⟩ := hr ht (hp ht)
    rw [classFor?, hd] at h
    simp at h

theorem exists_definition_of_conversion {t n : String} (h : r.conversion t = .parse n) :
    n = "i8" ∨ n = "u8" ∨ ∃ d ∈ r.definitions, d.className = n := by
  unfold conversion at h
  split at h
  · simp at h
  · split at h
    · simp at h
    · split at h
      · rename_i hn
        obtain rfl : t = n := by simpa using h
        exact hn.elim .inl (.inr ∘ .inl)
      · split at h
        · simp at h
        · split at h
          · rename_i hclass
            obtain rfl : t = n := by simpa using h
            exact .inr (.inr (by simpa [isClass] using hclass))
          · simp at h

theorem conversion_decoding (t : String) (depth : Nat) (access : String) (level : Nat) :
    (r.decoding t depth access level).conversion = r.conversion t := by
  induction depth generalizing access level with
  | zero => rfl
  | succ depth ih => exact ih _ _

theorem elementTypes_decoding {t access e : String} {depth level : Nat}
    (h : e ∈ (r.decoding t depth access level).elementTypes) : ∃ k, e = markedName t k := by
  induction depth generalizing access level with
  | zero => simp [decoding, Decoding.elementTypes] at h
  | succ depth ih =>
    rw [decoding, Decoding.elementTypes] at h
    rcases List.mem_cons.mp h with rfl | h
    · exact ⟨depth, rfl⟩
    · exact ih h

end StructRegistry

end AbiBindings
