import AbiBindings.Emit.EventClass
import AbiBindings.Proofs.Emit.QuietNames

/-! # What expressions mention

A quiet interface puts nothing into signatures that could be taken for a library symbol. What types
and expressions mention is then what they ask for: an expression that decodes may repeat the name
of the type that it decodes to (`mentioned_decoding_subset`), and one that encodes asks for the
type of the value too, which is mentioned where the value is declared
(`symbols_encoding_subset`). -/

namespace AbiBindings
set_option autoImplicit false

/-! ## Signatures -/

theorem mentioned_canonicalElementary {name : String} (h : SymbolFree name) :
    mentioned (canonicalElementary name) = [] := by
  rcases canonicalElementary_cases name with he | he
  · rw [he]
    exact h.mentioned_eq_nil
  · simp only [List.mem_cons, List.not_mem_nil, or_false] at he
    rcases he with he | he | he | he | he <;> rw [he] <;> exact mentioned_fixed rfl

theorem mentioned_levelText {size : Option String} (h : ∀ s ∈ size, SymbolFree s) :
    mentioned (TypeShape.levelText size) = [] := by
  rw [TypeShape.levelText, mentioned_trail [] rfl, mentioned_lead [] rfl]
  cases size with
  | none => simp
  | some s => simpa using (h s rfl).mentioned_eq_nil

theorem startsApart_levelText (size : Option String) :
    Text.startsApart (TypeShape.levelText size).toList = true := by
  rw [TypeShape.levelText]
  exact startsApart_append (startsApart_ofList_append rfl _) _

theorem TypeShape.mentioned_canonicalText {s : TypeShape} {tupleList : String}
    (hs : s.All SymbolFree) (ht : mentioned tupleList = []) :
    mentioned (s.canonicalText tupleList) = [] := by
  induction s with
  | elementary name => exact mentioned_canonicalElementary hs
  | tuple => exact ht
  | array element size ih =>
    rw [canonicalText, mentioned_append_of_startsApart _ (startsApart_levelText size), ih hs.1,
      mentioned_levelText hs.2]
    rfl

theorem Parameter.Quiet.shape {p : Parameter} (h : p.Quiet) : p.shape.All SymbolFree :=
  TypeShape.all_ofChars fun _ ht => (h _ p.typeText_mem_strings).of_piece ht

theorem mentioned_typeList {types : List String} (h : ∀ t ∈ types, mentioned t = []) :
    mentioned (typeList types) = [] := by
  rw [typeList, mentioned_trail [] rfl, mentioned_lead [] rfl, mentioned_intercalate rfl,
    List.flatMap_eq_nil_iff.mpr h]
  rfl

theorem Parameter.Quiet.mentioned_canonicalType {p : Parameter} (h : p.Quiet) :
    mentioned p.canonicalType = [] := by
  induction p using Parameter.induction with
  | step p ih =>
    rw [canonicalType_eq, tupleSignature, canonicalTypes_eq_map]
    refine TypeShape.mentioned_canonicalText h.shape (mentioned_typeList fun t ht => ?_)
    obtain ⟨q, hq, rfl⟩ := List.mem_map.mp ht
    exact ih q hq (h.component hq)

theorem mentioned_tupleSignature {ps : List Parameter} (h : ∀ p ∈ ps, p.Quiet) :
    mentioned (tupleSignature ps) = [] := by
  rw [tupleSignature, canonicalTypes_eq_map]
  refine mentioned_typeList fun t ht => ?_
  obtain ⟨p, hp, rfl⟩ := List.mem_map.mp ht
  exact (h p hp).mentioned_canonicalType

/-! ## Types -/

@[simp] theorem ElementaryType.mentioned_text (type : ElementaryType) :
    mentioned type.text = type.symbol?.toList := by
  cases type <;> exact mentioned_fixed rfl

@[simp] theorem mentioned_markedName (name : String) (depth : Nat) :
    mentioned (markedName name depth) = mentioned name := by
  have hmark : mentioned arrayMark = [] := mentioned_fixed rfl
  rw [markedName, mentioned_append_concat, List.flatMap_eq_nil_iff.mpr, List.append_nil]
  · intro t ht
    rw [List.eq_of_mem_replicate ht, hmark]
  · intro t ht
    rw [List.eq_of_mem_replicate ht]
    rfl

/-- A type mentions what it asks for, provided that struct classes are not called like symbols. -/
theorem ValueType.mentioned_text {t : ValueType}
    (h : ∀ n, t.base = .struct n → mentioned n = []) : mentioned t.text = t.symbols := by
  rw [text, mentioned_markedName, symbols]
  cases hbase : t.base with
  | elementary type => exact type.mentioned_text
  | struct className => exact h className hbase
  | unknown cause => exact mentioned_fixed rfl

/-! ## Values handed to the encoder -/

theorem LibraryForm.mentioned_text (form : LibraryForm) (value : String) :
    mentioned (form.text value) = form.symbols ++ mentioned value := by
  have hcall {function : List Char} (k : List LibrarySymbol) (h : leads function k = true) :
      mentioned (String.ofList function ++ value ++ ")") = k ++ mentioned value := by
    rw [mentioned_trail [] rfl, mentioned_lead k h, List.append_nil]
  unfold text
  cases form with
  | asIs => rfl
  | fromBool => exact hcall [.bytes] rfl
  | fromInt8 => exact hcall [.bigInt] rfl
  | fromUint8 => exact hcall [.bigInt] rfl
  | fromText => exact hcall [.bytes] rfl

/-! ## Conversions -/

/-- What a conversion mentions apart from what it converts. -/
def Conversion.mentions : Conversion → List LibrarySymbol
  | fromString typeName | parse typeName => mentioned typeName
  | fromHex => [.bytes]
  | truth | asIs => []

theorem Conversion.mentioned_text (k : Conversion) (value : String) :
    mentioned (k.text value) = k.mentions ++ mentioned value := by
  unfold text
  cases k with
  | fromString className =>
    rw [mentioned_trail [] rfl, mentioned_join [] rfl]
    simp [mentions]
  | fromHex =>
    rw [mentioned_trail [] rfl, mentioned_lead [.bytes] rfl]
    simp [mentions]
  | parse typeName =>
    rw [mentioned_trail [] rfl, mentioned_join [] rfl]
    simp [mentions]
  | truth =>
    rw [mentioned_trail [] rfl, mentioned_lead [] rfl]
    simp [mentions]
  | asIs => rfl

theorem StructRegistry.mentions_conversion (r : StructRegistry) (typeName : String) :
    (r.conversion typeName).mentions ⊆ mentioned typeName := by
  unfold conversion
  split
  · exact List.Subset.refl _
  · split
    · rename_i hbytes
      rw [hbytes, mentioned_fixed (k := [.bytes]) rfl]
      exact List.Subset.refl _
    · split
      · exact List.Subset.refl _
      · split
        · exact List.nil_subset _
        · split
          · exact List.Subset.refl _
          · exact List.nil_subset _

/-! ## Decodings -/

theorem mentioned_decodingItem (level : Nat) : mentioned (Decoding.itemName level) = [] :=
  (SymbolFree.append_toString (by decide) level).mentioned_eq_nil

theorem Decoding.mentioned_each (access elementType item : String) (inner : Decoding) :
    mentioned (Decoding.each access elementType item inner).text =
      mentioned access ++ .parseCsv :: mentioned access ++ mentioned elementType ++ mentioned item
        ++ mentioned inner.text := by
  conv => lhs; unfold text
  rw [mentioned_trail [] rfl, mentioned_join [] rfl, mentioned_join [] rfl, mentioned_join [] rfl,
    mentioned_join [.parseCsv] rfl]
  simp

theorem StructRegistry.mentioned_decoding_subset (r : StructRegistry) (typeName : String)
    (depth : Nat) (access : String) (level : Nat) :
    mentioned (r.decoding typeName depth access level).text ⊆
      mentioned typeName ++ mentioned access
        ++ (r.decoding typeName depth access level).symbols := by
  induction depth generalizing access level with
  | zero =>
    intro s hs
    change s ∈ mentioned ((r.conversion typeName).text access) at hs
    rw [Conversion.mentioned_text, List.mem_append] at hs
    rcases hs with hs | hs
    · simp [r.mentions_conversion typeName hs]
    · simp [hs]
  | succ depth ih =>
    intro s hs
    have ih := @ih (Decoding.itemName level) (level + 1) s
    rw [decoding, Decoding.mentioned_each, mentioned_markedName, mentioned_decodingItem] at hs
    rw [mentioned_decodingItem] at ih
    rw [decoding, Decoding.symbols]
    simp only [List.mem_append, List.mem_cons, List.not_mem_nil, or_false] at hs ih ⊢
    rcases hs with ((hs | rfl | hs) | hs) | hs
    · exact .inl (.inr hs)
    · exact .inr (.inl rfl)
    · exact .inl (.inr hs)
    · exact .inl (.inl hs)
    · exact (ih hs).elim (.inl ∘ .inl) (.inr ∘ .inr)

theorem Decoding.symbols_subset (d : Decoding) : d.symbols ⊆ mentioned d.text := by
  induction d with
  | value conversion access => exact List.nil_subset _
  | each access elementType item inner ih =>
    intro s hs
    rw [mentioned_each]
    simp only [List.mem_append, List.mem_cons]
    rcases List.mem_cons.mp hs with rfl | hs
    · exact .inl (.inl (.inl (.inr (.inl rfl))))
    · exact .inr (ih hs)

/-! ## Encodings -/

theorem mentioned_encodingItem (level : Nat) : mentioned (Encoding.itemName level) = [] :=
  (SymbolFree.append_toString (by decide) level).mentioned_eq_nil

namespace Encoding

theorem mentioned_single (typeName value : String) :
    mentioned (single typeName value).text =
      .encodeParam :: mentioned (canonicalElementary typeName) ++ (form typeName).symbols
        ++ mentioned value := by
  unfold text
  rw [mentioned_trail [] rfl, mentioned_join [] rfl, mentioned_lead [.encodeParam] rfl,
    LibraryForm.mentioned_text]
  simp

theorem mentioned_struct (value : String) :
    mentioned (struct value).text = .encodeParam :: mentioned value := by
  have htuple : mentioned tupleSignature = [] := mentioned_fixed rfl
  unfold text
  rw [mentioned_trail [] rfl, mentioned_join [] rfl, mentioned_lead [.encodeParam] rfl, htuple]
  simp

theorem mentioned_each (signature value item : String) (inner : Encoding) :
    mentioned (each signature value item inner).text =
      .encodeParam :: mentioned signature ++ mentioned value ++ .encodeParam :: mentioned item
        ++ mentioned inner.text := by
  conv => lhs; unfold text
  rw [mentioned_trail [] rfl, mentioned_join [] rfl, mentioned_join [.encodeParam] rfl,
    mentioned_join [] rfl, mentioned_lead [.encodeParam] rfl]
  simp

end Encoding

/-- The symbol of the elementary type inside all levels, where it has one. -/
def TypeShape.symbols : TypeShape → List LibrarySymbol
  | elementary name => ((ElementaryType.ofText? name).bind ElementaryType.symbol?).toList
  | tuple => []
  | array element _ => element.symbols

theorem TypeShape.symbols_innermost (s : TypeShape) : s.innermost.symbols = s.symbols := by
  induction s with
  | elementary name => rfl
  | tuple => rfl
  | array element size ih => exact ih

/-- What a declared type asks for depends on its shape alone. -/
theorem StructRegistry.symbols_valueType (r : StructRegistry) (p : Parameter) :
    (r.valueType p).symbols = p.shape.symbols := by
  rw [← p.shape.symbols_innermost]
  unfold valueType ValueType.symbols valueBase
  rcases p.shape.innermost_eq with ⟨h, -⟩ | ⟨name, h, -⟩
  · rw [h]
    dsimp only
    split <;> rfl
  · rw [h]
    unfold TypeShape.symbols
    cases htype : ElementaryType.ofText? name <;> simp [htype, ValueBase.symbols]

theorem TypeShape.mentioned_encoding_subset {s : TypeShape} (hs : s.All SymbolFree)
    (value : String) (level : Nat) :
    mentioned (s.encoding value level).text ⊆
      mentioned value ++ (s.encoding value level).symbols := by
  induction s generalizing value level with
  | elementary name =>
    rw [encoding, Encoding.mentioned_single, mentioned_canonicalElementary hs, Encoding.symbols]
    intro x hx
    simp only [List.mem_append, List.mem_cons, List.not_mem_nil, or_false] at hx ⊢
    grind
  | tuple =>
    rw [encoding, Encoding.mentioned_struct, Encoding.symbols]
    intro x hx
    simpa [or_comm] using hx
  | array element size ih =>
    intro x hx
    have ih := @ih hs.1 (Encoding.itemName level) (level + 1) x
    have hsignature : mentioned ((array element size).canonicalText Encoding.tupleSignature) = [] :=
      mentioned_canonicalText hs (mentioned_fixed rfl)
    rw [encoding, Encoding.mentioned_each, hsignature, mentioned_encodingItem] at hx
    rw [mentioned_encodingItem] at ih
    rw [encoding, Encoding.symbols]
    simp only [List.mem_append, List.mem_cons, List.not_mem_nil, or_false, false_or] at hx ih ⊢
    rcases hx with ((rfl | hx) | rfl) | hx
    · exact .inr (.inl rfl)
    · exact .inl hx
    · exact .inr (.inl rfl)
    · exact .inr (.inr (ih hx))

/-- What an encoding asks for it mentions, or else it is the type of the value. -/
theorem TypeShape.symbols_encoding_subset (s : TypeShape) (value : String) (level : Nat) :
    (s.encoding value level).symbols ⊆ mentioned (s.encoding value level).text ++ s.symbols := by
  induction s generalizing value level with
  | elementary name =>
    rw [encoding, Encoding.mentioned_single, Encoding.symbols, symbols]
    intro x hx
    simp only [List.mem_append, List.mem_cons] at hx ⊢
    grind
  | tuple =>
    rw [encoding, Encoding.mentioned_struct, Encoding.symbols]
    intro x hx
    simp [List.mem_singleton.mp hx]
  | array element size ih =>
    intro x hx
    have ih := @ih (Encoding.itemName level) (level + 1) x
    rw [encoding, Encoding.symbols] at hx
    rw [encoding, Encoding.mentioned_each]
    change x ∈ _ ++ element.symbols
    simp only [List.mem_append, List.mem_cons] at ih ⊢
    rcases List.mem_cons.mp hx with rfl | hx
    · exact .inl (.inl (.inl (.inl (.inl rfl))))
    · exact (ih hx).elim (.inl ∘ .inr) .inr

end AbiBindings
