import AbiBindings.Proofs.Emit.ClassShapes
import AbiBindings.Proofs.Emit.ExpressionMentions
import AbiBindings.Proofs.Emit.NamedTypes

/-! # What methods mention

A method mentions exactly the library symbols that it asks for (`mem_mentioned_method`), provided
that the names and signatures in it mention nothing. The symbol of a decoded value is mentioned by
the declared result, and that of an encoded one by the declared parameter. -/

namespace AbiBindings
set_option autoImplicit false

/-! ## Types and decodings of a registry -/

namespace StructRegistry

/-- No class of a struct is called like a library symbol. -/
def Quiet (r : StructRegistry) : Prop :=
  ∀ d ∈ r.definitions, mentioned d.className = []

variable {r : StructRegistry}

theorem Quiet.mentioned_valueType (hr : r.Quiet) (p : Parameter) :
    mentioned (r.valueType p).text = (r.valueType p).symbols := by
  refine ValueType.mentioned_text fun n hn => ?_
  obtain ⟨d, hd, rfl⟩ := exists_definition_of_struct hn
  exact hr d hd

theorem Quiet.mentioned_returnType (hr : r.Quiet) (f : ContractFunction) :
    mentioned (r.returnType f).text = (r.returnType f).symbols := by
  unfold returnType
  split
  · exact ElementaryType.mentioned_text .bool
  · exact hr.mentioned_valueType _
  · split
    · rename_i className hclass
      refine ValueType.mentioned_text fun n hn => ?_
      obtain ⟨d, hd, hname⟩ := Option.map_eq_some_iff.mp hclass
      obtain rfl : className = n := by simpa using hn
      rw [← hname]
      exact hr d (find?_eq_some hd).1
    · exact ValueType.mentioned_text fun n hn => by simp at hn

theorem mentioned_decode_subset (r : StructRegistry) {t : ValueType} {access : String}
    (ht : mentioned t.text = t.symbols) (haccess : mentioned access = []) :
    mentioned (r.decode t access).text ⊆ t.symbols ++ (r.decode t access).symbols := by
  have hbase : mentioned t.base.name = t.symbols := by
    rw [← ht, ValueType.text, mentioned_markedName]
  have h := r.mentioned_decoding_subset t.base.name t.depth access 0
  rwa [hbase, haccess, List.append_nil] at h

end StructRegistry

/-! ## Lines of a method -/

namespace Method

theorem mentioned_typedName {p : TypedName} (h : mentioned p.name = []) :
    mentioned p.text = mentioned p.type.text := by
  rw [TypedName.text, mentioned_join [] rfl, h]
  rfl

theorem mentioned_callData {m : Method} (h : mentioned m.selector = []) :
    mentioned m.callData =
      if m.arguments.isEmpty then []
      else .evm :: m.arguments.flatMap fun a => mentioned a.text := by
  unfold callData
  split
  · rw [String.append_empty, mentioned_trail [] rfl, mentioned_lead [] rfl, h]
    rfl
  · rw [mentioned_append_of_endsApart, mentioned_trail [] rfl, mentioned_lead [] rfl, h,
      mentioned_trail [] rfl, mentioned_lead [.evm] rfl, mentioned_intercalate rfl,
      List.flatMap_map]
    · simp
    · exact endsApart_append_ofList rfl _

/-- A fixed text with the type arguments of a result behind it. -/
theorem mentioned_generic {s : List Char} (k : List LibrarySymbol) (h : mentionedIn s = k)
    (t : String) : mentioned (String.ofList s ++ ("<" ++ t ++ ", string>")) = k ++ mentioned t := by
  have hstarts : Text.startsApart ("<" ++ t ++ ", string>").toList = true :=
    startsApart_append (startsApart_ofList_append rfl _) _
  rw [mentioned_append_of_startsApart _ hstarts, mentioned_fixed h, mentioned_trail [] rfl,
    mentioned_lead [] rfl, List.append_nil]
  rfl

theorem mentioned_resultText (m : Method) :
    mentioned m.resultText =
      match m.body with
      | .query returns _ => .result :: mentioned returns.text
      | .call _ => [.callBuilder] := by
  unfold resultText
  cases m.body with
  | query returns response? =>
    dsimp only
    rw [mentioned_trail [] rfl, mentioned_lead [.result] rfl]
    simp
  | call amount? => exact mentioned_fixed rfl

theorem mentioned_bodyLines (m : Method) :
    m.bodyLines.flatMap mentioned =
      match m.body with
      | .query returns none =>
        mentioned m.callData ++ .environment :: .result :: mentioned returns.text
          ++ .result :: mentioned returns.text
      | .query returns (some (signature, decoding)) =>
        mentioned m.callData ++ .environment :: .result :: mentioned returns.text
          ++ .evm :: .decodeParam :: mentioned signature
          ++ .result :: mentioned returns.text ++ mentioned decoding.text
      | .call amount? =>
        .bytes :: mentioned m.callData ++ .callBuilder :: amount?.toList.flatMap mentioned := by
  have hquery : mentioned "this.timestamp)" = [] := mentioned_fixed rfl
  have hbuilder : mentioned
      "    const builder = EvmCallBuilder.forChain(this.chainId).addCall(this.address, encodedData"
        = [.callBuilder] := mentioned_fixed rfl
  have hfee : mentioned "    const feeAmount = this.feeAmount" = [] := mentioned_fixed rfl
  have hadd : mentioned "    if (feeAmount !== null) builder.addMaxFee(feeAmount)" = [] :=
    mentioned_fixed rfl
  have hreturn : mentioned "    return builder" = [] := mentioned_fixed rfl
  have hpaid (amount : String) : Text.startsApart (", " ++ amount).toList = true :=
    startsApart_ofList_append rfl _
  unfold bodyLines
  rcases m.body with ⟨returns, _ | ⟨signature, decoding⟩⟩ | _ | amount
  · dsimp only
    simp only [List.cons_append, List.flatMap_cons, List.flatMap_nil, List.nil_append]
    rw [mentioned_lead [] rfl, mentioned_lead [.environment] rfl, mentioned_trail [] rfl,
      mentioned_generic [.result] rfl, mentioned_trail [] rfl, mentioned_generic [.result] rfl,
      hquery]
    simp
  · dsimp only
    simp only [List.cons_append, List.flatMap_cons, List.flatMap_nil, List.nil_append]
    rw [mentioned_lead [] rfl, mentioned_lead [.environment] rfl, mentioned_trail [] rfl,
      mentioned_generic [.result] rfl, mentioned_trail [] rfl,
      mentioned_lead [.evm, .decodeParam] rfl, mentioned_trail [] rfl, mentioned_join [] rfl,
      mentioned_generic [.result] rfl, hquery]
    simp
  · dsimp only
    simp only [List.flatMap_cons, List.flatMap_nil]
    rw [mentioned_trail [] rfl, mentioned_lead [.bytes] rfl, mentioned_trail [] rfl,
      String.append_empty, hbuilder, hfee, hadd, hreturn]
    simp
  · dsimp only
    simp only [List.flatMap_cons, List.flatMap_nil]
    rw [mentioned_trail [] rfl, mentioned_lead [.bytes] rfl, mentioned_trail [] rfl,
      mentioned_append_of_startsApart _ (hpaid amount), mentioned_lead [] rfl, hbuilder, hfee, hadd,
      hreturn]
    simp

theorem mentioned_text {m : Method} (hname : mentioned m.name = []) :
    mentioned m.text =
      (m.parameters.flatMap fun p => mentioned p.text) ++ mentioned m.resultText
        ++ m.bodyLines.flatMap mentioned := by
  have hlast : mentioned "  \x7d" = [] := mentioned_fixed rfl
  unfold text
  dsimp only
  rw [mentioned_intercalate rfl, List.cons_append, List.flatMap_cons, mentioned_trail [] rfl,
    mentioned_join [] rfl, mentioned_join [] rfl, mentioned_lead [] rfl, hname,
    mentioned_intercalate rfl, List.flatMap_map, List.flatMap_append, List.flatMap_singleton, hlast]
  simp

end Method

/-! ## The method of a function -/

namespace StructRegistry

variable {r : StructRegistry} {f : ContractFunction}

theorem quiet_of_mem_methodParameters (hf : ∀ p ∈ f.inputs ++ f.outputs, p.Quiet) :
    ∀ p ∈ f.methodParameters, p.Quiet := by
  intro p hp
  rcases of_mem_methodParameters hp with hp | rfl
  · exact hf p (List.mem_append_left _ hp)
  · have hstrings : (amountParameter.strings.all (decide <| SymbolFree ·)) = true := by
      decide +kernel
    exact fun t ht => by simpa using List.all_eq_true.mp hstrings t ht

theorem mentioned_name_of_mem_namedParameters (hf : ∀ p ∈ f.inputs ++ f.outputs, p.Quiet)
    {p : NamedParameter} (hp : p ∈ f.namedParameters) : mentioned p.name = [] :=
  (symbolFree_name_of_mem_nameParameters (by decide +kernel) (quiet_of_mem_methodParameters hf)
    hp).mentioned_eq_nil

theorem quiet_of_mem_namedParameters (hf : ∀ p ∈ f.inputs ++ f.outputs, p.Quiet)
    {p : NamedParameter} (hp : p ∈ f.namedParameters) : p.parameter.Quiet :=
  quiet_of_mem_methodParameters hf _ (NameScope.parameter.parameter_mem_of_mem_nameParameters hp)

theorem Quiet.mentioned_parameters (hr : r.Quiet) (hf : ∀ p ∈ f.inputs ++ f.outputs, p.Quiet)
    (name : String) :
    ((r.method f name).parameters.flatMap fun p => mentioned p.text) =
      (r.method f name).parameters.flatMap fun p => p.type.symbols := by
  refine List.flatMap_congr fun p hp => ?_
  obtain ⟨q, hq, rfl⟩ := List.mem_map.mp hp
  rw [Method.mentioned_typedName (mentioned_name_of_mem_namedParameters hf hq)]
  exact hr.mentioned_valueType _

theorem mentioned_encode_subset {p : Parameter} (hp : p.Quiet) {value : String}
    (hvalue : mentioned value = []) :
    mentioned (p.encode value).text ⊆ (p.encode value).symbols := by
  have h := TypeShape.mentioned_encoding_subset hp.shape value 0
  rwa [hvalue, List.nil_append] at h

theorem symbols_encode_subset (r : StructRegistry) (p : Parameter) (value : String) :
    (p.encode value).symbols ⊆ mentioned (p.encode value).text ++ (r.valueType p).symbols := by
  rw [symbols_valueType]
  exact p.shape.symbols_encoding_subset value 0

theorem mentioned_callData_method (name : String) :
    mentioned (r.method f name).callData =
      if (r.method f name).arguments.isEmpty then []
      else .evm :: (r.method f name).arguments.flatMap fun a => mentioned a.text := by
  have hselector : mentioned (r.method f name).selector = [] :=
    (symbolFree_signatureHash 4 f.name f.inputs).mentioned_eq_nil
  exact Method.mentioned_callData hselector

/-- The data of a call mention the encoder, where there is something to encode, and what the
arguments ask for, apart from the types that the parameters are declared with. -/
theorem mem_callData_of_mem_symbols (name : String) {s : LibrarySymbol}
    (h : s ∈ (if (r.method f name).arguments.isEmpty then [] else [LibrarySymbol.evm])
      ++ (r.method f name).arguments.flatMap Encoding.symbols) :
    s ∈ mentioned (r.method f name).callData ∨
      s ∈ (r.method f name).parameters.flatMap fun p => p.type.symbols := by
  rw [mentioned_callData_method]
  split at h
  · rename_i hnil
    rw [List.isEmpty_iff.mp hnil] at h
    simp at h
  · rename_i hne
    rw [if_neg hne]
    rcases List.mem_append.mp h with h | h
    · exact .inl (by simp [List.mem_singleton.mp h])
    · obtain ⟨a, ha, hs⟩ := List.mem_flatMap.mp h
      obtain ⟨p, hp, rfl⟩ := List.mem_map.mp ha
      rcases List.mem_append.mp (symbols_encode_subset r p.parameter p.name hs) with hs | hs
      · exact .inl (List.mem_cons_of_mem _ (List.mem_flatMap.mpr ⟨_, ha, hs⟩))
      · exact .inr (List.mem_flatMap.mpr
          ⟨_, List.mem_map_of_mem (List.mem_of_mem_take hp), hs⟩)

theorem mem_symbols_of_mem_callData (hf : ∀ p ∈ f.inputs ++ f.outputs, p.Quiet) (name : String)
    {s : LibrarySymbol} (h : s ∈ mentioned (r.method f name).callData) :
    s ∈ (if (r.method f name).arguments.isEmpty then [] else [LibrarySymbol.evm])
      ++ (r.method f name).arguments.flatMap Encoding.symbols := by
  rw [mentioned_callData_method] at h
  split at h
  · simp at h
  · rename_i hne
    rw [if_neg hne]
    refine List.mem_cons.mpr ((List.mem_cons.mp h).imp_right fun h => ?_)
    obtain ⟨a, ha, hs⟩ := List.mem_flatMap.mp h
    refine List.mem_flatMap.mpr ⟨a, ha, ?_⟩
    obtain ⟨p, hp, rfl⟩ := List.mem_map.mp ha
    have hp := List.mem_of_mem_take hp
    exact mentioned_encode_subset (quiet_of_mem_namedParameters hf hp)
      (mentioned_name_of_mem_namedParameters hf hp) hs

theorem mentioned_outputSignature (h : ∀ p ∈ f.outputs, p.Quiet) :
    mentioned f.outputSignature = [] := by
  unfold ContractFunction.outputSignature
  split
  · rename_i output houtputs
    exact (h output (by simp [houtputs])).mentioned_canonicalType
  · exact mentioned_tupleSignature h

/-- A method mentions what it asks for. -/
theorem Quiet.mem_mentioned_method (hr : r.Quiet) (hf : ∀ p ∈ f.inputs ++ f.outputs, p.Quiet)
    {name : String} (hname : mentioned name = []) {s : LibrarySymbol} :
    s ∈ mentioned (r.method f name).text ↔ s ∈ (r.method f name).symbols := by
  have hin := mem_symbols_of_mem_callData (r := r) hf name (s := s)
  have hout := mem_callData_of_mem_symbols (r := r) (f := f) name (s := s)
  rw [Method.mentioned_text hname, Method.symbols, hr.mentioned_parameters hf,
    Method.mentioned_resultText, Method.mentioned_bodyLines, Method.bodySymbols]
  by_cases hwrite : f.mutability.isWrite = true
  · -- a call: only the name of the amount is put into its lines
    have hbody : (r.method f name).body =
        .call ((f.namedParameters.drop f.inputs.length).head?.map NamedParameter.name) :=
      if_pos hwrite
    have hamount : ((f.namedParameters.drop f.inputs.length).head?.map
        NamedParameter.name).toList.flatMap mentioned = [] := by
      refine List.flatMap_eq_nil_iff.mpr fun t ht => ?_
      obtain ⟨p, hp, rfl⟩ := Option.map_eq_some_iff.mp (Option.mem_toList.mp ht)
      exact mentioned_name_of_mem_namedParameters hf
        (List.mem_of_mem_drop (List.mem_of_mem_head? hp))
    rw [hbody]
    dsimp only
    rw [hamount]
    simp only [List.mem_append, List.mem_cons, List.not_mem_nil, or_false] at hin hout ⊢
    grind
  · -- a query: the result is declared with the type that the response is decoded to
    have hreturns := hr.mentioned_returnType f
    have haccess : mentioned "decodedResponse" = [] := mentioned_fixed rfl
    by_cases houtputs : f.outputs.isEmpty = true
    · have hbody : (r.method f name).body = .query (r.returnType f) none := by
        change r.methodBody f = _
        rw [methodBody, if_neg hwrite]
        dsimp only
        rw [if_pos houtputs]
      rw [hbody]
      dsimp only
      rw [hreturns]
      simp only [List.mem_append, List.mem_cons, List.not_mem_nil, or_false] at hin hout ⊢
      grind
    · have hbody : (r.method f name).body = .query (r.returnType f)
          (some (f.outputSignature, r.decode (r.returnType f) "decodedResponse")) := by
        change r.methodBody f = _
        rw [methodBody, if_neg hwrite]
        dsimp only
        rw [if_neg houtputs]
      have hdecode := @r.mentioned_decode_subset _ _ hreturns haccess s
      have hdecodes := @Decoding.symbols_subset (r.decode (r.returnType f) "decodedResponse") s
      rw [hbody]
      dsimp only
      rw [hreturns, mentioned_outputSignature fun p hp => hf p (List.mem_append_right _ hp)]
      simp only [List.mem_append, List.mem_cons, List.not_mem_nil, or_false] at hin hout hdecode ⊢
      grind

end StructRegistry
end AbiBindings
