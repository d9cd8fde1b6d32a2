import AbiBindings.Proofs.Emit.StructClassMentions

/-! # What event classes mention

The class of an event mentions the types and the sources of its fields. Where some value is in the
data, they are decoded, and where several are, they are split (`EventClass.mem_mentioned_text`).
That is what the class asks for (`mem_mentioned_eventClass`). -/

namespace AbiBindings
set_option autoImplicit false

/-! ## Lines of a class -/

namespace EventClass

variable {c : EventClass}

theorem slots_eventClass :
    Template.eventClass.slots =
      [.className, .members, .constructorParameters, .assignments, .className, .decodeLines,
       .className, .constructorArguments] :=
  rfl

theorem mentioned_declaration {f : EventField} (h : mentioned f.variableName = []) :
    mentioned f.declaration = mentioned f.type.text ++ mentioned f.source.text := by
  rw [EventField.declaration, mentioned_join [] rfl, mentioned_join [] rfl, mentioned_lead [] rfl,
    h]
  simp

theorem mentioned_declarations (fields : List EventField)
    (h : ∀ f ∈ fields, mentioned f.variableName = []) :
    (fields.map EventField.declaration).flatMap mentioned =
      fields.flatMap fun f => mentioned f.type.text ++ mentioned f.source.text := by
  rw [List.flatMap_map]
  exact List.flatMap_congr fun f hf => mentioned_declaration (h f hf)

theorem mentioned_topicLines (hevent : mentioned c.eventName = [])
    (hfields : ∀ f ∈ c.fields, mentioned f.variableName = []) :
    c.topicLines.flatMap mentioned =
      c.topicFields.flatMap fun f => mentioned f.type.text ++ mentioned f.source.text := by
  have hdeclared := mentioned_declarations c.topicFields fun f hf =>
    hfields f (List.mem_of_mem_filter hf)
  unfold topicLines
  split
  · rename_i hnil
    rw [List.isEmpty_iff.mp hnil]
    rfl
  · rw [List.flatMap_cons, mentioned_trail [] rfl, mentioned_join [] rfl, mentioned_lead [] rfl,
      hevent, (SymbolFree.toString_nat _).mentioned_eq_nil, hdeclared]
    rfl

theorem mentioned_dataLines (hevent : mentioned c.eventName = [])
    (hdata : mentioned c.dataSignature = [])
    (hfields : ∀ f ∈ c.fields, mentioned f.variableName = []) :
    c.dataLines.flatMap mentioned =
      (if c.dataFields.isEmpty then [] else [.evm, .decodeParam])
        ++ (if c.dataFields.length ≤ 1 then [] else [.parseCsv])
        ++ c.dataFields.flatMap fun f => mentioned f.type.text ++ mentioned f.source.text := by
  have hdeclared := mentioned_declarations c.dataFields fun f hf =>
    hfields f (List.mem_of_mem_filter hf)
  have hsplit : mentioned "    const parts = parseCSVNotNullable(decodedData)" = [.parseCsv] :=
    mentioned_fixed rfl
  unfold dataLines
  dsimp only
  by_cases hnil : c.dataFields.isEmpty = true
  · rw [if_pos hnil, if_pos hnil, List.isEmpty_iff.mp hnil]
    rfl
  · have hlength : 0 < c.dataFields.length := by
      rw [List.length_pos_iff]
      exact fun h => hnil (List.isEmpty_iff.mpr h)
    rw [if_neg hnil, if_neg hnil, List.flatMap_append, List.flatMap_cons, hdeclared,
      mentioned_trail [] rfl, mentioned_lead [.evm, .decodeParam] rfl, hdata]
    by_cases hone : c.dataFields.length = 1
    · rw [if_pos hone, if_pos (by omega)]
      simp
    · rw [if_neg hone, if_neg (by omega), List.flatMap_cons, List.flatMap_singleton, hsplit,
        mentioned_trail [] rfl, mentioned_join [] rfl,
        mentioned_lead [] rfl, hevent,
        (SymbolFree.toString_nat _).mentioned_eq_nil]
      simp

/-! ## The whole class -/

theorem mem_topicFields_or_mem_dataFields {f : EventField} :
    f ∈ c.topicFields ∨ f ∈ c.dataFields ↔ f ∈ c.fields := by
  rw [topicFields, dataFields, List.mem_filter, List.mem_filter]
  cases f.source.isTopic <;> simp

theorem mentioned_topicConstant (h : ∀ t ∈ c.topic?, mentioned t = []) :
    mentioned (match c.topic? with
      | some hash => "  static readonly TOPIC: string = '" ++ hash ++ "'\n"
      | none => "") = [] := by
  cases ht : c.topic? with
  | none => exact mentioned_empty
  | some t =>
    dsimp only
    rw [mentioned_trail [] rfl, mentioned_lead [] rfl, h t ht]
    rfl

/-- What the text of a class mentions where the names and signatures in it mention nothing. -/
theorem mem_mentioned_text (hname : mentioned c.name = []) (hevent : mentioned c.eventName = [])
    (htopic : ∀ t ∈ c.topic?, mentioned t = []) (hdata : mentioned c.dataSignature = [])
    (hfields : ∀ f ∈ c.fields, mentioned f.field = [] ∧ mentioned f.variableName = [])
    {s : LibrarySymbol} :
    s ∈ mentioned c.text ↔
      (∃ f ∈ c.fields, s ∈ mentioned f.type.text ∨ s ∈ mentioned f.source.text) ∨
        s ∈ (if c.dataFields.isEmpty then [] else [LibrarySymbol.evm, .decodeParam]) ∨
        s ∈ (if c.dataFields.length ≤ 1 then [] else [LibrarySymbol.parseCsv]) := by
  have hmembers (a : String) (ha : mentioned a = []) :
      mentioned (a ++ "".intercalate (c.fields.map fun f =>
        "  readonly " ++ f.field ++ ": " ++ f.type.text ++ "\n")) =
          c.fields.flatMap fun f => mentioned f.type.text := by
    rw [mentioned_append_concat_map (k := fun f => mentioned f.type.text), ha, List.nil_append]
    · exact fun f => startsApart_append (startsApart_append (startsApart_append
        (startsApart_ofList_append rfl _) _) _) _
    · intro f hf
      rw [mentioned_trail [] rfl, mentioned_join [] rfl, mentioned_lead [] rfl, (hfields f hf).1]
      simp
  have hparameters : mentioned (", ".intercalate (c.fields.map fun f =>
      f.variableName ++ ": " ++ f.type.text)) = c.fields.flatMap fun f => mentioned f.type.text :=
    mentioned_intercalate_map rfl fun f hf => by
      rw [mentioned_join [] rfl, (hfields f hf).2]
      rfl
  have hassigned : mentioned ("".intercalate (c.fields.map fun f =>
      "    this." ++ f.field ++ " = " ++ f.variableName ++ "\n")) = [] := by
    rw [← String.empty_append (s := "".intercalate _),
      mentioned_append_concat_map (k := fun _ => []), mentioned_empty, List.nil_append]
    · exact List.flatMap_eq_nil_iff.mpr fun _ _ => rfl
    · exact fun f => startsApart_append (startsApart_append (startsApart_append
        (startsApart_ofList_append rfl _) _) _) _
    · intro f hf
      rw [mentioned_trail [] rfl, mentioned_join [] rfl, mentioned_lead [] rfl, (hfields f hf).1,
        (hfields f hf).2]
      rfl
  have hlines : mentioned ("\n".intercalate (c.topicLines ++ c.dataLines)) = _ :=
    (mentioned_intercalate rfl _).trans (by
      rw [List.flatMap_append, mentioned_topicLines hevent fun f hf => (hfields f hf).2,
        mentioned_dataLines hevent hdata fun f hf => (hfields f hf).2])
  have harguments : mentioned (", ".intercalate (c.fields.map EventField.variableName)) =
      c.fields.flatMap fun _ => [] :=
    mentioned_intercalate_map rfl fun f hf => (hfields f hf).2
  unfold text
  rw [Template.mem_mentioned_fill Template.fenced_eventClass, slots_eventClass]
  simp only [List.mem_cons, List.not_mem_nil, or_false, false_or, exists_eq_or_imp, exists_eq_left]
  rw [hname, hmembers, hparameters, hassigned, hlines, harguments]
  · have hsplit (f : EventField) : f ∈ c.fields ↔ f ∈ c.topicFields ∨ f ∈ c.dataFields :=
      mem_topicFields_or_mem_dataFields.symm
    simp only [List.mem_append, List.mem_flatMap, List.not_mem_nil, and_false, exists_false,
      false_or, or_false]
    grind
  · exact mentioned_topicConstant htopic

end EventClass

/-! ## Sources -/

theorem mentioned_topicText (index : Nat) : mentioned (EventSource.topicText index) = [] := by
  rw [EventSource.topicText, mentioned_trail [] rfl, mentioned_lead [] rfl,
    (SymbolFree.toString_nat index).mentioned_eq_nil]
  rfl

theorem EventSource.mentioned_hash (index : Nat) :
    mentioned (EventSource.hash index).text = [.bytes] := by
  unfold text
  dsimp only
  rw [mentioned_trail [] rfl, mentioned_lead [.bytes] rfl, mentioned_topicText]
  rfl

theorem EventSource.mentioned_topic {signature : String} (h : mentioned signature = [])
    (index : Nat) (conversion : Conversion) :
    mentioned (EventSource.topic index signature conversion).text =
      conversion.mentions ++ [.evm, .decodeParam] := by
  unfold text
  dsimp only
  rw [Conversion.mentioned_text, mentioned_trail [] rfl, mentioned_join [] rfl,
    mentioned_lead [.evm, .decodeParam] rfl, h, mentioned_topicText]
  rfl

theorem EventSource.subset_symbols_of_data {source : EventSource} (h : source.isTopic = false) :
    [.evm, .decodeParam] ⊆ source.symbols := by
  cases source with
  | data decoding => exact List.subset_append_left _ _
  | _ => simp [isTopic] at h

namespace StructRegistry

variable {r : StructRegistry} {e : ContractEvent}

theorem Quiet.mentioned_fieldType (hr : r.Quiet) (p : Parameter) :
    mentioned (r.fieldType p).text = (r.fieldType p).symbols := by
  rw [fieldType]
  split
  · exact ElementaryType.mentioned_text .bytes
  · exact hr.mentioned_valueType p

/-- The source of a value mentions what it asks for and the declared type of an input. -/
theorem Quiet.mentioned_source_subset (hr : r.Quiet) {shared : Bool} {topic position : Nat}
    {inputs : List Parameter} (hinputs : ∀ p ∈ inputs, p.Quiet) {source : EventSource}
    (h : source ∈ r.eventSources shared topic position inputs) :
    ∃ p ∈ inputs, mentioned source.text ⊆ (r.fieldType p).symbols ++ source.symbols := by
  obtain ⟨p, hp, ⟨k, -, rfl⟩ | ⟨k, -, rfl⟩ | ⟨access, -, haccess, rfl⟩⟩ := r.of_mem_eventSources h
  · refine ⟨p, hp, ?_⟩
    rw [EventSource.mentioned_hash]
    exact List.subset_append_right _ _
  · refine ⟨p, hp, ?_⟩
    have hmentions := r.mentions_conversion (r.fieldType p).text
    rw [hr.mentioned_fieldType] at hmentions
    rw [EventSource.mentioned_topic (hinputs p hp).mentioned_canonicalType]
    exact List.append_subset.mpr ⟨List.subset_append_of_subset_left _ hmentions,
      List.subset_append_right _ _⟩
  · refine ⟨p, hp, fun s hs => ?_⟩
    have hsilent : mentioned access = [] := by
      rcases haccess with rfl | ⟨k, rfl⟩
      · exact mentioned_fixed rfl
      · exact mentioned_partText k
    have hdecode := r.mentioned_decode_subset (hr.mentioned_fieldType p) hsilent hs
    rw [EventSource.symbols]
    exact (List.mem_append.mp hdecode).elim (fun hs => List.mem_append_left _ hs)
      fun hs => List.mem_append_right _ (List.mem_append_right _ hs)

/-- What a source asks for it mentions, or else it is what decoding the data takes. -/
theorem symbols_source_subset {shared : Bool} {topic position : Nat} {inputs : List Parameter}
    (hinputs : ∀ p ∈ inputs, p.Quiet) {source : EventSource}
    (h : source ∈ r.eventSources shared topic position inputs) :
    source.symbols ⊆ mentioned source.text ++
      (if source.isTopic then [] else [LibrarySymbol.evm, .decodeParam]) := by
  obtain ⟨p, hp, ⟨k, -, rfl⟩ | ⟨k, -, rfl⟩ | ⟨access, -, -, rfl⟩⟩ := r.of_mem_eventSources h
  · rw [EventSource.mentioned_hash]
    exact List.subset_append_left _ _
  · rw [EventSource.mentioned_topic (hinputs p hp).mentioned_canonicalType]
    exact List.subset_append_of_subset_left _ (List.subset_append_right _ _)
  · intro s hs
    rcases List.mem_append.mp hs with hs | hs
    · exact List.mem_append_right _ hs
    · exact List.mem_append_left _ (Decoding.symbols_subset _ hs)

/-! ## The class of an event -/

theorem mentioned_names_eventClass (he : ∀ p ∈ e.inputs, p.Quiet) {name : String}
    {f : EventField} (hf : f ∈ (r.eventClass e name).fields) :
    mentioned f.field = [] ∧ mentioned f.variableName = [] := by
  have hparam : SymbolFree "param" := by decide +kernel
  obtain ⟨hfield, hvariable⟩ := r.keeps_eventField keptByEndings_symbolFree hparam
    (fun p hp => .inr (he p hp _ p.name_mem_strings)) hf
  exact ⟨hfield.mentioned_eq_nil, hvariable.mentioned_eq_nil⟩

theorem mentioned_dataSignature (he : ∀ p ∈ e.inputs, p.Quiet) (name : String) :
    mentioned (r.eventClass e name).dataSignature = [] := by
  have hdata : ∀ p ∈ e.dataInputs, p.Quiet := fun p hp => he p (List.mem_of_mem_filter hp)
  unfold eventClass
  dsimp only
  split
  · rename_i p hinputs
    exact (hdata p (by simp [hinputs])).mentioned_canonicalType
  · exact mentioned_tupleSignature hdata

theorem mentioned_topic_eventClass (name : String) :
    ∀ t ∈ (r.eventClass e name).topic?, mentioned t = [] := by
  intro t ht
  change t ∈ (if e.anonymous then none else some e.topic) at ht
  split at ht
  · simp at ht
  · obtain rfl : e.topic = t := by simpa using ht
    exact (symbolFree_signatureHash 32 e.name e.inputs).mentioned_eq_nil

theorem Quiet.mentioned_type_eventClass (hr : r.Quiet) {name : String} {f : EventField}
    (hf : f ∈ (r.eventClass e name).fields) : mentioned f.type.text = f.type.symbols := by
  have htype := List.mem_map_of_mem (f := EventField.type) hf
  rw [types_eventClass] at htype
  obtain ⟨p, -, hp⟩ := List.mem_map.mp htype
  rw [← hp]
  exact hr.mentioned_fieldType p

theorem mem_eventSources {name : String} {f : EventField}
    (hf : f ∈ (r.eventClass e name).fields) :
    f.source ∈ r.eventSources (1 < e.dataInputs.length) (if e.anonymous then 0 else 1) 0
      e.inputs := by
  rw [← r.sources_eventClass e name]
  exact List.mem_map_of_mem hf

/-- The class of an event mentions what it asks for. -/
theorem Quiet.mem_mentioned_eventClass (hr : r.Quiet) (hevent : SymbolFree e.name)
    (he : ∀ p ∈ e.inputs, p.Quiet) {name : String} (hname : mentioned name = [])
    {s : LibrarySymbol} :
    s ∈ mentioned (r.eventClass e name).text ↔ s ∈ (r.eventClass e name).symbols := by
  rw [EventClass.mem_mentioned_text hname hevent.mentioned_eq_nil (mentioned_topic_eventClass name)
    (mentioned_dataSignature he name) fun f hf => mentioned_names_eventClass he hf,
    EventClass.symbols, List.mem_append, List.mem_flatMap]
  constructor
  · rintro (⟨f, hf, hs | hs⟩ | hs | hs)
    · rw [hr.mentioned_type_eventClass hf] at hs
      exact .inl ⟨f, hf, List.mem_append_left _ hs⟩
    · obtain ⟨p, hp, hsubset⟩ := hr.mentioned_source_subset he (mem_eventSources hf)
      rcases List.mem_append.mp (hsubset hs) with hs | hs
      · -- the declared type of the field that belongs to the same input
        have hmem : r.fieldType p ∈ (r.eventClass e name).fields.map EventField.type := by
          rw [types_eventClass]
          exact List.mem_map_of_mem hp
        obtain ⟨g, hg, htype⟩ := List.mem_map.mp hmem
        exact .inl ⟨g, hg, List.mem_append_left _ (htype ▸ hs)⟩
      · exact .inl ⟨f, hf, List.mem_append_right _ hs⟩
    · split at hs
      · simp at hs
      · rename_i hne
        obtain ⟨f, hf⟩ := List.exists_mem_of_ne_nil _ fun h => hne (List.isEmpty_iff.mpr h)
        obtain ⟨hf, hdata⟩ := List.mem_filter.mp hf
        exact .inl ⟨f, hf, List.mem_append_right _
          (EventSource.subset_symbols_of_data (by simpa using hdata) hs)⟩
    · exact .inr hs
  · rintro (⟨f, hf, hs⟩ | hs)
    · rcases List.mem_append.mp hs with hs | hs
      · rw [← hr.mentioned_type_eventClass hf] at hs
        exact .inl ⟨f, hf, .inl hs⟩
      · rcases List.mem_append.mp (symbols_source_subset he (mem_eventSources hf) hs) with hs | hs
        · exact .inl ⟨f, hf, .inr hs⟩
        · split at hs
          · simp at hs
          · rename_i hdata
            have hmem : f ∈ (r.eventClass e name).dataFields :=
              List.mem_filter.mpr ⟨hf, by simpa using hdata⟩
            rw [if_neg fun h => List.ne_nil_of_mem hmem (List.isEmpty_iff.mp h)]
            exact .inr (.inl hs)
    · exact .inr (.inr hs)

end StructRegistry
end AbiBindings
