import AbiBindings.Proofs.Emit.TopLevelNames
import AbiBindings.Proofs.Emit.StructsEmitted
import AbiBindings.Proofs.Names.Distinct

/-! # Names that bodies bind and refer to

Methods, constructors and readers of emitted classes bind names of the interface beside the names
that they refer to (`BodyNames`). A body is kept clear when its bound names are resolved in a scope
that reserves what the body introduces (`BodyNames.Kept`). Then no bound name captures a variable
of the code, the parameter of a nested function or a symbol of the library
(`BodyNames.Kept.not_mem_of_mem_bound`), and every body of a file is kept clear
(`Contract.kept_of_mem_bodies`).

Scopes know nothing of classes. So a bound name can be that of a class or built-in type which the
body parses with or creates values of, and that is all it can capture. -/

namespace AbiBindings
set_option autoImplicit false

/-! ## What expressions refer to -/

namespace Conversion

/-- The class or built-in type that parses the text. -/
def readers : Conversion → List String
  | parse typeName => [typeName]
  | truth => ["u8"]
  | _ => []

/-- The library symbols that the conversion refers to. -/
def libraryNames : Conversion → List String
  | fromString className => [className]
  | fromHex => [LibrarySymbol.bytes.name]
  | _ => []

end Conversion

namespace Decoding

/-- The parameters of the nested functions. -/
def nested : Decoding → List String
  | value _ _ => []
  | each _ _ item inner => item :: inner.nested

/-- The library symbols that the expression refers to. -/
def libraryNames (d : Decoding) : List String :=
  d.symbols.map LibrarySymbol.name ++ d.conversion.libraryNames

end Decoding

/-- The parameters of the nested functions. -/
def Encoding.nested : Encoding → List String
  | single _ _ => []
  | struct _ => []
  | each _ _ item inner => item :: inner.nested

namespace EventSource

/-- The parameters of the nested functions. -/
def nested (s : EventSource) : List String :=
  s.decoding?.toList.flatMap Decoding.nested

/-- The conversion of the value, unless only its hash is known. -/
def anyConversion? (s : EventSource) : Option Conversion :=
  s.conversion? <|> s.decoding?.map Decoding.conversion

/-- The library symbols that the expression and its decoding refer to. -/
def libraryNames (s : EventSource) : List String :=
  s.symbols.map LibrarySymbol.name ++ s.anyConversion?.toList.flatMap Conversion.libraryNames

/-- The classes and built-in types that parse. -/
def readers (s : EventSource) : List String :=
  s.anyConversion?.toList.flatMap Conversion.readers

end EventSource

/-! ## Bodies -/

/-- The names in one body of emitted code. -/
structure BodyNames where
  /-- The parameters and variables that stand for names of the interface. -/
  bound : List String
  /-- The parameters and variables that the code itself introduces. -/
  introduced : List String := []
  /-- The parameters of nested functions. -/
  nested : List String := []
  /-- The library symbols that the body refers to. -/
  libraryNames : List String := []
  /-- The classes and built-in types that the body parses with or creates values of. -/
  classes : List String := []

/-- No bound name hides what the body refers to by the same name. -/
def BodyNames.CaptureFree (b : BodyNames) : Prop :=
  ∀ n ∈ b.bound, n ∉ b.introduced ++ b.nested ++ b.libraryNames ++ b.classes

instance (b : BodyNames) : Decidable b.CaptureFree :=
  inferInstanceAs (Decidable (∀ n ∈ b.bound, _))

/-- The names of a method's body. -/
def Method.names (m : Method) : BodyNames where
  bound := m.parameters.map TypedName.name
  introduced :=
    match m.body with
    | .query _ none => ["encodedData", "response"]
    | .query _ (some _) => ["encodedData", "response", "decodedResponse"]
    | .call _ => ["encodedData", "builder", "feeAmount"]
  nested := m.arguments.flatMap Encoding.nested ++ m.decodings.flatMap Decoding.nested
  libraryNames :=
    m.symbols.map LibrarySymbol.name ++ m.decodings.flatMap Decoding.libraryNames
  classes := m.decodings.flatMap fun d => d.conversion.readers

namespace StructClass

/-- The names of the constructor's body. -/
def constructorNames (c : StructClass) : BodyNames where
  bound := c.fields.map StructField.variableName

/-- The names of the body of `parse`. -/
def parseNames (c : StructClass) : BodyNames where
  bound := c.fields.map StructField.variableName
  introduced := ["data", "parts"]
  nested := c.fields.flatMap fun f => f.decoding.nested
  libraryNames := LibrarySymbol.parseCsv.name :: c.fields.flatMap fun f => f.decoding.libraryNames
  classes := "Error" :: c.name :: c.fields.flatMap fun f => f.decoding.conversion.readers

end StructClass

namespace EventClass

/-- The names of the constructor's body. -/
def constructorNames (c : EventClass) : BodyNames where
  bound := c.fields.map EventField.variableName

/-- Whether the data hold several values and are split. -/
def splitsData (c : EventClass) : Bool :=
  1 < c.dataFields.length

/-- The names of the body of `decode`. -/
def decodeNames (c : EventClass) : BodyNames where
  bound := c.fields.map EventField.variableName
  introduced :=
    ["topics", "data"] ++ (if c.dataFields.isEmpty then [] else ["decodedData"])
      ++ (if c.splitsData then ["parts"] else [])
  nested := c.fields.flatMap fun f => f.source.nested
  libraryNames :=
    (c.fields.flatMap fun f => f.source.libraryNames)
      ++ (if c.splitsData then [LibrarySymbol.parseCsv.name] else [])
  classes :=
    c.name :: (if !c.topicFields.isEmpty || c.splitsData then ["Error"] else [])
      ++ c.fields.flatMap fun f => f.source.readers

end EventClass

/-- The bodies of a file that bind names of the interface. -/
def SourceFile.bodies (f : SourceFile) : List BodyNames :=
  f.contract.methods.map Method.names
    ++ f.structs.flatMap (fun s => [s.constructorNames, s.parseNames])
    ++ f.events.flatMap (fun e => [e.constructorNames, e.decodeNames])

/-! ## Bodies that are kept clear -/

/-- The built-in types and classes that bodies refer to. -/
def builtinReferents : List String :=
  ["i8", "u8", "Error"]

namespace BodyNames

/-- A body whose bound names are resolved in a scope that reserves the names it introduces. -/
structure Kept (own : List String) (scope : NameScope) (b : BodyNames) : Prop where
  declares : scope.declaresVariables = true
  bound : ∃ names, b.bound = scope.resolve names
  introduced : b.introduced ⊆ scope.reserved
  nested : ∀ n ∈ b.nested, isNestedParameter n = true
  libraryNames : b.libraryNames ⊆ LibrarySymbol.names
  /-- The classes are those of the file or built in. -/
  classes : b.classes ⊆ builtinReferents ++ own

namespace Kept

variable {own : List String} {scope : NameScope} {b : BodyNames}

theorem nodup_bound (h : b.Kept own scope) : b.bound.Nodup := by
  obtain ⟨names, hbound⟩ := h.bound
  rw [hbound]
  exact scope.nodup_resolve names

theorem not_mem_of_mem_bound (h : b.Kept own scope) {n : String} (hn : n ∈ b.bound) :
    n ∉ b.introduced ∧ n ∉ b.nested ∧ n ∉ b.libraryNames := by
  obtain ⟨names, hbound⟩ := h.bound
  rw [hbound] at hn
  have hfree : ¬ scope.conflicts n = true := by
    rw [scope.conflicts_of_mem_resolve hn]
    exact Bool.false_ne_true
  rw [scope.conflicts_iff] at hfree
  push Not at hfree
  obtain ⟨hreserved, hvariable, hnested⟩ := hfree
  refine ⟨fun hmem => hreserved (h.introduced hmem), fun hmem => hnested (h.nested n hmem),
    fun hmem => ?_⟩
  exact (hvariable h.declares).2 (h.libraryNames hmem)

theorem captureFree_iff (h : b.Kept own scope) :
    b.CaptureFree ↔ ∀ n ∈ b.bound, n ∉ b.classes := by
  refine forall₂_congr fun n hn => ?_
  obtain ⟨hintroduced, hnested, hlibrary⟩ := h.not_mem_of_mem_bound hn
  simp [hintroduced, hnested, hlibrary]

end Kept
end BodyNames

/-! ## Expressions of a registry -/

/-- A parameter of a nested function, which stands for an item that is decoded or encoded. -/
def IsItemName (n : String) : Prop :=
  ∃ level, n = Decoding.itemName level ∨ n = Encoding.itemName level

theorem IsItemName.isNestedParameter {n : String} (h : IsItemName n) :
    isNestedParameter n = true := by
  obtain ⟨level, rfl | rfl⟩ := h
  · rw [AbiBindings.isNestedParameter, Decoding.itemName, isStemWithDigits_append_toString,
      Bool.true_or]
  · rw [AbiBindings.isNestedParameter, Encoding.itemName, isStemWithDigits_append_toString,
      Bool.or_true]

theorem TypeShape.isItemName_of_mem_encoding {shape : TypeShape} {value : String}
    {level : Nat} {n : String} (h : n ∈ (shape.encoding value level).nested) :
    IsItemName n := by
  induction shape generalizing value level with
  | elementary name => simp [encoding, Encoding.nested] at h
  | tuple => simp [encoding, Encoding.nested] at h
  | array element size ih =>
    rw [encoding, Encoding.nested] at h
    rcases List.mem_cons.mp h with rfl | h
    · exact ⟨level, .inr rfl⟩
    · exact ih h

theorem map_name_subset_names (symbols : List LibrarySymbol) :
    symbols.map LibrarySymbol.name ⊆ LibrarySymbol.names := by
  intro n hn
  obtain ⟨s, -, rfl⟩ := List.mem_map.mp hn
  exact List.mem_map_of_mem s.mem_all

namespace StructRegistry

variable (r : StructRegistry)

/-- The names of the struct classes of a registry. -/
def classNames : List String :=
  r.definitions.map StructDefinition.className

theorem isItemName_of_mem_decoding {t access : String} {depth level : Nat} {n : String}
    (h : n ∈ (r.decoding t depth access level).nested) : IsItemName n := by
  induction depth generalizing access level with
  | zero => simp [decoding, Decoding.nested] at h
  | succ depth ih =>
    rw [decoding, Decoding.nested] at h
    rcases List.mem_cons.mp h with rfl | h
    · exact ⟨level, .inl rfl⟩
    · exact ih h

theorem libraryNames_conversion (t : String) :
    (r.conversion t).libraryNames ⊆ LibrarySymbol.names := by
  unfold conversion
  split
  · rename_i ht
    rcases ht with rfl | rfl
    · decide
    · decide
  · split
    · decide
    · repeat' split
      all_goals exact List.nil_subset _

theorem readers_conversion (t : String) :
    (r.conversion t).readers ⊆ builtinReferents ++ r.classNames := by
  intro n hn
  cases hconversion : r.conversion t with
  | parse typeName =>
    rw [hconversion] at hn
    obtain rfl : n = typeName := by simpa [Conversion.readers] using hn
    rcases exists_definition_of_conversion hconversion with rfl | rfl | ⟨d, hd, rfl⟩
    · simp [builtinReferents]
    · simp [builtinReferents]
    · exact List.mem_append_right _ (List.mem_map_of_mem hd)
  | truth =>
    rw [hconversion] at hn
    obtain rfl : n = "u8" := by simpa [Conversion.readers] using hn
    simp [builtinReferents]
  | fromString className => simp [hconversion, Conversion.readers] at hn
  | fromHex => simp [hconversion, Conversion.readers] at hn
  | asIs => simp [hconversion, Conversion.readers] at hn

theorem conversion_decode (t : ValueType) (access : String) :
    (r.decode t access).conversion = r.conversion t.base.name :=
  r.conversion_decoding _ _ _ _

theorem libraryNames_decode (t : ValueType) (access : String) :
    (r.decode t access).libraryNames ⊆ LibrarySymbol.names := by
  refine List.append_subset.mpr ⟨map_name_subset_names _, ?_⟩
  rw [conversion_decode]
  exact r.libraryNames_conversion _

theorem readers_decode (t : ValueType) (access : String) :
    (r.decode t access).conversion.readers ⊆ builtinReferents ++ r.classNames := by
  rw [conversion_decode]
  exact r.readers_conversion _

/-! ## Methods -/

theorem bound_names_method (f : ContractFunction) (name : String) :
    (r.method f name).names.bound =
      NameScope.parameter.resolve (f.methodParameters.mapIdx fun i p => p.nameOr "param" i) := by
  rw [Method.names, names_method, ContractFunction.namedParameters,
    NameScope.map_name_nameParameters]

theorem isItemName_of_mem_method {f : ContractFunction} {name n : String}
    (hn : n ∈ (r.method f name).names.nested) : IsItemName n := by
  rcases List.mem_append.mp hn with hn | hn
  · obtain ⟨e, he, hn⟩ := List.mem_flatMap.mp hn
    obtain ⟨p, -, rfl⟩ := List.mem_map.mp he
    exact TypeShape.isItemName_of_mem_encoding hn
  · obtain ⟨d, hd, hn⟩ := List.mem_flatMap.mp hn
    obtain ⟨t, -, access, rfl⟩ := Contract.of_mem_decodings_method hd
    exact r.isItemName_of_mem_decoding hn

theorem kept_method (f : ContractFunction) (name : String) :
    (r.method f name).names.Kept r.classNames .parameter where
  declares := rfl
  bound := ⟨_, r.bound_names_method f name⟩
  introduced := by
    unfold Method.names
    dsimp only
    split <;> decide
  nested _ hn := (r.isItemName_of_mem_method hn).isNestedParameter
  libraryNames := by
    refine List.append_subset.mpr ⟨map_name_subset_names _, fun n hn => ?_⟩
    obtain ⟨d, hd, hn⟩ := List.mem_flatMap.mp hn
    obtain ⟨t, -, access, rfl⟩ := Contract.of_mem_decodings_method hd
    exact r.libraryNames_decode t access hn
  classes := by
    intro n hn
    obtain ⟨d, hd, hn⟩ := List.mem_flatMap.mp hn
    obtain ⟨t, -, access, rfl⟩ := Contract.of_mem_decodings_method hd
    exact r.readers_decode t access hn

/-! ## Struct classes -/

/-- A body that only assigns what it binds refers to nothing. -/
theorem kept_constructor {bound : List String} (own names : List String)
    (h : bound = NameScope.bodyLocal.resolve names) :
    BodyNames.Kept own .bodyLocal { bound } where
  declares := rfl
  bound := ⟨names, h⟩
  introduced := List.nil_subset _
  nested := by simp
  libraryNames := List.nil_subset _
  classes := List.nil_subset _

theorem isItemName_of_mem_parse {d : StructDefinition} {n : String}
    (hn : n ∈ (r.structClass d).parseNames.nested) : IsItemName n := by
  obtain ⟨f, hf, hn⟩ := List.mem_flatMap.mp hn
  obtain ⟨p, -, i, -, -, -, hdecoding, -⟩ := r.of_mem_fields_structClass hf
  rw [hdecoding] at hn
  exact r.isItemName_of_mem_decoding hn

theorem kept_parse {d : StructDefinition} (hd : d ∈ r.definitions) :
    (r.structClass d).parseNames.Kept r.classNames .bodyLocal where
  declares := rfl
  bound := ⟨_, r.variableNames_structClass d⟩
  introduced := by
    show ["data", "parts"] ⊆ NameScope.bodyLocal.reserved
    decide
  nested _ hn := (r.isItemName_of_mem_parse hn).isNestedParameter
  libraryNames := by
    refine List.cons_subset.mpr ⟨by decide, fun n hn => ?_⟩
    obtain ⟨f, hf, hn⟩ := List.mem_flatMap.mp hn
    obtain ⟨p, -, i, -, -, -, hdecoding, -⟩ := r.of_mem_fields_structClass hf
    rw [hdecoding] at hn
    exact r.libraryNames_decode _ _ hn
  classes := by
    have hown : d.className ∈ r.classNames := List.mem_map_of_mem hd
    refine List.cons_subset.mpr ⟨List.mem_append_left _ (by decide), List.cons_subset.mpr
      ⟨List.mem_append_right _ hown, fun n hn => ?_⟩⟩
    obtain ⟨f, hf, hn⟩ := List.mem_flatMap.mp hn
    obtain ⟨p, -, i, -, -, -, hdecoding, -⟩ := r.of_mem_fields_structClass hf
    rw [hdecoding] at hn
    exact r.readers_decode _ _ hn

/-! ## Event classes -/

theorem isItemName_of_mem_eventSource {shared : Bool} {topic position : Nat}
    {inputs : List Parameter} {s : EventSource}
    (h : s ∈ r.eventSources shared topic position inputs) {n : String} (hn : n ∈ s.nested) :
    IsItemName n := by
  obtain ⟨p, -, ⟨k, -, rfl⟩ | ⟨k, -, rfl⟩ | ⟨access, -, -, rfl⟩⟩ := r.of_mem_eventSources h
  · simp [EventSource.nested, EventSource.decoding?] at hn
  · simp [EventSource.nested, EventSource.decoding?] at hn
  · have hn : n ∈ (r.decode (r.fieldType p) access).nested := by
      simpa [EventSource.nested, EventSource.decoding?] using hn
    exact r.isItemName_of_mem_decoding hn

theorem conversion_eventSource {shared : Bool} {topic position : Nat} {inputs : List Parameter}
    {s : EventSource} (h : s ∈ r.eventSources shared topic position inputs) {k : Conversion}
    (hk : s.anyConversion? = some k) : ∃ t, k = r.conversion t := by
  obtain ⟨p, -, ⟨i, -, rfl⟩ | ⟨i, -, rfl⟩ | ⟨access, -, -, rfl⟩⟩ := r.of_mem_eventSources h
  · simp [EventSource.anyConversion?, EventSource.conversion?, EventSource.decoding?] at hk
  · exact ⟨_, by simpa [EventSource.anyConversion?, EventSource.conversion?] using hk.symm⟩
  · have hk : (r.decode (r.fieldType p) access).conversion = k := by
      simpa [EventSource.anyConversion?, EventSource.conversion?, EventSource.decoding?] using hk
    exact ⟨_, by rw [← hk, conversion_decode]⟩

theorem libraryNames_eventSource {shared : Bool} {topic position : Nat} {inputs : List Parameter}
    {s : EventSource} (h : s ∈ r.eventSources shared topic position inputs) :
    s.libraryNames ⊆ LibrarySymbol.names := by
  refine List.append_subset.mpr ⟨map_name_subset_names _, fun n hn => ?_⟩
  obtain ⟨k, hk, hn⟩ := List.mem_flatMap.mp hn
  obtain ⟨t, rfl⟩ := r.conversion_eventSource h (Option.mem_toList.mp hk)
  exact r.libraryNames_conversion t hn

theorem readers_eventSource {shared : Bool} {topic position : Nat} {inputs : List Parameter}
    {s : EventSource} (h : s ∈ r.eventSources shared topic position inputs) :
    s.readers ⊆ builtinReferents ++ r.classNames := by
  intro n hn
  obtain ⟨k, hk, hn⟩ := List.mem_flatMap.mp hn
  obtain ⟨t, rfl⟩ := r.conversion_eventSource h (Option.mem_toList.mp hk)
  exact r.readers_conversion t hn

theorem isItemName_of_mem_decode {e : ContractEvent} {name n : String}
    (hn : n ∈ (r.eventClass e name).decodeNames.nested) : IsItemName n := by
  obtain ⟨f, hf, hn⟩ := List.mem_flatMap.mp hn
  exact r.isItemName_of_mem_eventSource (r.mem_eventSources hf) hn

theorem kept_decode (e : ContractEvent) (name : String) :
    (r.eventClass e name).decodeNames.Kept (name :: r.classNames) .bodyLocal where
  declares := rfl
  bound := ⟨_, r.variableNames_eventClass e name⟩
  introduced := by
    unfold EventClass.decodeNames
    dsimp only
    repeat' split
    all_goals decide
  nested _ hn := (r.isItemName_of_mem_decode hn).isNestedParameter
  libraryNames := by
    refine List.append_subset.mpr ⟨fun n hn => ?_, ?_⟩
    · obtain ⟨f, hf, hn⟩ := List.mem_flatMap.mp hn
      exact r.libraryNames_eventSource (r.mem_eventSources hf) hn
    · split <;> decide
  classes := by
    have hbuiltin : ["Error"] ⊆ builtinReferents := by decide
    refine List.append_subset.mpr ⟨List.cons_subset.mpr ⟨?_, ?_⟩, fun n hn => ?_⟩
    · exact List.mem_append_right _ List.mem_cons_self
    · split
      · exact List.subset_append_of_subset_left _ hbuiltin
      · exact List.nil_subset _
    · obtain ⟨f, hf, hn⟩ := List.mem_flatMap.mp hn
      have hreader := r.readers_eventSource (r.mem_eventSources hf) hn
      rcases List.mem_append.mp hreader with h | h
      · exact List.mem_append_left _ h
      · exact List.mem_append_right _ (List.mem_cons_of_mem _ h)

end StructRegistry

/-! ## Files -/

theorem BodyNames.Kept.mono {own more : List String} {scope : NameScope} {b : BodyNames}
    (h : b.Kept own scope) (hsub : own ⊆ more) : b.Kept more scope where
  declares := h.declares
  bound := h.bound
  introduced := h.introduced
  nested := h.nested
  libraryNames := h.libraryNames
  classes := List.Subset.trans h.classes <| List.append_subset.mpr
    ⟨List.subset_append_left _ _, List.subset_append_of_subset_right _ hsub⟩

namespace Contract

variable {c : Contract} {library name : String}

theorem classNames_structs_subset (c : Contract) (library name : String) :
    (c.structs name).classNames ⊆ (c.bindings library name).classNames := by
  rw [classNames_bindings]
  exact List.subset_cons_of_subset _ (List.subset_append_left _ _)

/-- The bodies of a file: those of methods, and two for every struct and every event. -/
theorem of_mem_bodies {b : BodyNames} (hb : b ∈ (c.bindings library name).bodies) :
    (∃ f ∈ c.functions, ∃ chosen, b = ((c.structs name).method f chosen).names) ∨
    (∃ d ∈ (c.structs name).definitions, b = ((c.structs name).structClass d).constructorNames ∨
      b = ((c.structs name).structClass d).parseNames) ∨
    ∃ e ∈ c.events, ∃ chosen ∈ uniqueNames (c.structs name).taken
        (c.events.map ContractEvent.classStem),
      b = ((c.structs name).eventClass e chosen).constructorNames ∨
      b = ((c.structs name).eventClass e chosen).decodeNames := by
  rcases List.mem_append.mp hb with hb | hb
  · rcases List.mem_append.mp hb with hb | hb
    · obtain ⟨m, hm, rfl⟩ := List.mem_map.mp hb
      obtain ⟨f, hf, chosen, -, rfl⟩ := StructRegistry.of_mem_methods _ hm
      exact .inl ⟨f, hf, chosen, rfl⟩
    · obtain ⟨s, hs, hb⟩ := List.mem_flatMap.mp hb
      obtain ⟨d, hd, rfl⟩ := List.mem_map.mp hs
      exact .inr (.inl ⟨d, hd, List.mem_pair.mp hb⟩)
  · obtain ⟨k, hk, hb⟩ := List.mem_flatMap.mp hb
    obtain ⟨e, he, chosen, hchosen, rfl⟩ := StructRegistry.of_mem_eventClasses _ hk
    exact .inr (.inr ⟨e, he, chosen, hchosen, List.mem_pair.mp hb⟩)

theorem isItemName_of_mem_nested {b : BodyNames} (hb : b ∈ (c.bindings library name).bodies)
    {n : String} (hn : n ∈ b.nested) : IsItemName n := by
  rcases of_mem_bodies hb with
    ⟨f, -, chosen, rfl⟩ | ⟨d, -, rfl | rfl⟩ | ⟨e, -, chosen, -, rfl | rfl⟩
  · exact StructRegistry.isItemName_of_mem_method _ hn
  · simp [StructClass.constructorNames] at hn
  · exact StructRegistry.isItemName_of_mem_parse _ hn
  · simp [EventClass.constructorNames] at hn
  · exact StructRegistry.isItemName_of_mem_decode _ hn

theorem kept_of_mem_bodies {b : BodyNames} (hb : b ∈ (c.bindings library name).bodies) :
    ∃ scope, b.Kept (c.bindings library name).classNames scope := by
  have hsub := classNames_structs_subset c library name
  rcases of_mem_bodies hb with
    ⟨f, -, chosen, rfl⟩ | ⟨d, hd, rfl | rfl⟩ | ⟨e, -, chosen, hchosen, rfl | rfl⟩
  · exact ⟨_, (StructRegistry.kept_method _ f chosen).mono hsub⟩
  · exact ⟨_, StructRegistry.kept_constructor _ _ (StructRegistry.variableNames_structClass _ d)⟩
  · exact ⟨_, (StructRegistry.kept_parse _ hd).mono hsub⟩
  · exact ⟨_, StructRegistry.kept_constructor _ _ (StructRegistry.variableNames_eventClass _ e _)⟩
  · refine ⟨_, (StructRegistry.kept_decode _ e chosen).mono (List.cons_subset.mpr ⟨?_, hsub⟩)⟩
    rw [classNames_bindings]
    exact List.mem_cons_of_mem _ (List.mem_append_right _ hchosen)

/-- In every body of a file the names bound for names of the interface are distinct, and none of
them is that of a variable the body introduces, of the parameter of a function inside or of a
symbol of the library. The body captures nothing exactly when none is that of a class which the body
parses with or creates values of, and those are classes of the file, `i8`, `u8` or `Error`. -/
theorem bodies_capture_classes_only (c : Contract) (library name : String) :
    let file := c.bindings library name
    ∀ b ∈ file.bodies,
      b.bound.Nodup ∧
      (∀ n ∈ b.bound, n ∉ b.introduced ∧ n ∉ b.nested ∧ n ∉ b.libraryNames) ∧
      b.classes ⊆ builtinReferents ++ file.classNames ∧
      (b.CaptureFree ↔ ∀ n ∈ b.bound, n ∉ b.classes) := by
  intro file b hb
  obtain ⟨scope, hkept⟩ := kept_of_mem_bodies hb
  exact ⟨hkept.nodup_bound, fun n => hkept.not_mem_of_mem_bound, hkept.classes,
    hkept.captureFree_iff⟩

/-- The quote of a pool binds its input `Pair` and parses the response with the class `Pair`. -/
theorem quote_of_pool_captures :
    let pair : Parameter :=
      { typeText := "tuple", internalType := some "struct Pair"
        components := [{ name := "a", typeText := "uint256" }] }
    let pool : Contract := { entries := [
      .function { name := "quote", inputs := [{ name := "Pair", typeText := "uint256" }],
                  outputs := [pair], mutability := .view }] }
    let file := pool.bindings "lib" "Pool"
    pool.isEmpty = false ∧ (∃ b ∈ file.bodies, ¬ b.CaptureFree) ∧
      file.contract.methods.map (fun m => (m.parameters.map TypedName.text, m.bodyLines.getLast?)) =
        [(["Pair: BigInt"],
          some "    return Result.ok<Pair, string>(Pair.parse(decodedResponse))")] := by
  decide +kernel

end Contract
end AbiBindings
