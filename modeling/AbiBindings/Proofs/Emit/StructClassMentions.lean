import AbiBindings.Proofs.Emit.MethodMentions
import AbiBindings.Proofs.Emit.TemplateMentions

/-! # What struct classes mention

Apart from what its template mentions, the class of a struct mentions the types, the decodings and
the encodings of its fields (`StructClass.mem_mentioned_text`), which is what it asks for
(`mem_mentioned_structClass`). -/

namespace AbiBindings
set_option autoImplicit false

namespace StructClass

variable {c : StructClass}

theorem slots_structClass :
    Template.structClass.slots =
      [.className, .fields, .constructorParameters, .assignments, .className, .componentCount,
       .parseLines, .className, .constructorArguments, .encodings] :=
  rfl

/-- What the text of a class mentions where the names in it mention nothing. -/
theorem mem_mentioned_text (hname : mentioned c.name = [])
    (hfields : ∀ f ∈ c.fields, mentioned f.field = [] ∧ mentioned f.variableName = [])
    {s : LibrarySymbol} :
    s ∈ mentioned c.text ↔ (s = .parseCsv ∨ s = .encodeParam) ∨
      ∃ f ∈ c.fields, s ∈ mentioned f.type.text ∨ s ∈ mentioned f.decoding.text ∨
        s ∈ mentioned f.encoding.text := by
  have hdeclared : mentioned ("\n".intercalate (c.fields.map fun f =>
      "  readonly " ++ f.field ++ ": " ++ f.type.text)) =
        c.fields.flatMap fun f => mentioned f.type.text :=
    mentioned_intercalate_map rfl fun f hf => by
      rw [mentioned_join [] rfl, mentioned_lead [] rfl, (hfields f hf).1]
      rfl
  have hparameters : mentioned (", ".intercalate (c.fields.map fun f =>
      f.variableName ++ ": " ++ f.type.text)) = c.fields.flatMap fun f => mentioned f.type.text :=
    mentioned_intercalate_map rfl fun f hf => by
      rw [mentioned_join [] rfl, (hfields f hf).2]
      rfl
  have hassigned : mentioned ("\n".intercalate (c.fields.map fun f =>
      "    this." ++ f.field ++ " = " ++ f.variableName)) = c.fields.flatMap fun _ => [] :=
    mentioned_intercalate_map rfl fun f hf => by
      rw [mentioned_join [] rfl, mentioned_lead [] rfl, (hfields f hf).1, (hfields f hf).2]
      rfl
  have hcount : mentioned (toString c.fields.length) = [] :=
    (SymbolFree.toString_nat _).mentioned_eq_nil
  have hparsed : mentioned ("\n".intercalate (c.fields.map fun f =>
      "    const " ++ f.variableName ++ ": " ++ f.type.text ++ " = " ++ f.decoding.text)) =
        c.fields.flatMap fun f => mentioned f.type.text ++ mentioned f.decoding.text :=
    mentioned_intercalate_map rfl fun f hf => by
      rw [mentioned_join [] rfl, mentioned_join [] rfl, mentioned_lead [] rfl, (hfields f hf).2]
      simp
  have harguments : mentioned (", ".intercalate (c.fields.map StructField.variableName)) =
      c.fields.flatMap fun _ => [] :=
    mentioned_intercalate_map rfl fun f hf => (hfields f hf).2
  have hencoded : mentioned ("\n".intercalate (c.fields.map fun f =>
      "      " ++ f.encoding.text ++ ",")) = c.fields.flatMap fun f => mentioned f.encoding.text :=
    mentioned_intercalate_map rfl fun f _ => by
      rw [mentioned_trail [] rfl, mentioned_lead [] rfl]
      simp
  unfold text
  rw [Template.mem_mentioned_fill Template.fenced_structClass, slots_structClass]
  simp only [List.mem_cons, List.not_mem_nil, or_false, exists_eq_or_imp, exists_eq_left]
  rw [hname, hdeclared, hparameters, hassigned, hcount, hparsed, harguments, hencoded]
  simp only [List.mem_flatMap, List.mem_append, List.not_mem_nil, and_false, exists_false, false_or,
    ← exists_or, ← and_or_left]
  grind

end StructClass

/-! ## The class of a definition -/

namespace StructRegistry

variable {r : StructRegistry} {d : StructDefinition}

theorem mentioned_partText (index : Nat) : mentioned (partText index) = [] := by
  rw [partText, mentioned_trail [] rfl, mentioned_lead [] rfl,
    (SymbolFree.toString_nat index).mentioned_eq_nil]
  rfl

theorem mentioned_names_structClass (hd : ∀ p ∈ d.fields, SymbolFree p.name) {f : StructField}
    (hf : f ∈ (r.structClass d).fields) :
    mentioned f.field = [] ∧ mentioned f.variableName = [] := by
  obtain ⟨hfield, hvariable⟩ := r.keeps_structField keptByEndings_symbolFree hd hf
  exact ⟨hfield.mentioned_eq_nil, hvariable.mentioned_eq_nil⟩

/-- A field mentions what it asks for, in its declared type or in one of its expressions. -/
theorem Quiet.mem_mentioned_structField (hr : r.Quiet)
    (hd : ∀ p ∈ d.fields, SymbolFree p.name ∧ p.parameter.Quiet) {f : StructField}
    (hf : f ∈ (r.structClass d).fields) {s : LibrarySymbol} :
    (s ∈ mentioned f.type.text ∨ s ∈ mentioned f.decoding.text ∨ s ∈ mentioned f.encoding.text) ↔
      s ∈ f.type.symbols ++ f.decoding.symbols ++ f.encoding.symbols := by
  obtain ⟨p, hp, i, -, -, htype, hdecoding, hencoding⟩ := r.of_mem_fields_structClass hf
  obtain ⟨hname, hquiet⟩ := hd p hp
  have hthis : mentioned ("this." ++ p.name) = [] := by
    rw [mentioned_lead [] rfl, hname.mentioned_eq_nil]
    rfl
  have htext := hr.mentioned_valueType p.parameter
  rw [htype, hdecoding, hencoding, htext]
  have hdecode := @r.mentioned_decode_subset _ _ htext (mentioned_partText i) s
  have hdecodes := @Decoding.symbols_subset (r.decode (r.valueType p.parameter) (partText i)) s
  have hencode := @mentioned_encode_subset _ hquiet _ hthis s
  have hencodes := @symbols_encode_subset r p.parameter ("this." ++ p.name) s
  simp only [List.mem_append] at hdecode hencodes ⊢
  grind

/-- The class of a struct mentions what it asks for. -/
theorem Quiet.mem_mentioned_structClass (hr : r.Quiet) (hmem : d ∈ r.definitions)
    (hd : ∀ p ∈ d.fields, SymbolFree p.name ∧ p.parameter.Quiet) {s : LibrarySymbol} :
    s ∈ mentioned (r.structClass d).text ↔ s ∈ (r.structClass d).symbols := by
  rw [StructClass.mem_mentioned_text (hr d hmem) fun f hf =>
    mentioned_names_structClass (fun p hp => (hd p hp).1) hf, StructClass.symbols,
    List.mem_append, List.mem_cons, List.mem_singleton, List.mem_flatMap]
  exact or_congr_right (exists_congr fun f => and_congr_right fun hf =>
    hr.mem_mentioned_structField hd hf)

end StructRegistry
end AbiBindings
