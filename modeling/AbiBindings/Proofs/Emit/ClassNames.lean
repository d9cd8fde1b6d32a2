import AbiBindings.Proofs.Emit.EventClassMentions
import AbiBindings.Proofs.Struct.DeclaredNames

/-! # Names of classes mention nothing

A struct class has the name that the interface declares, or one made for it; in an ASCII interface
it is a single identifier, and since the names of library symbols are reserved, it is none of them
(`quiet_structs`). An event class is called after the event, whose name is free of symbols, and the
word behind it completes none (`SymbolFree.append_event`). -/

namespace AbiBindings
set_option autoImplicit false

/-! ## Declared names are identifiers -/

theorem isIdentifierChar_of_className {p : Parameter}
    (hascii : ∀ t ∈ p.internalType, Text.IsAscii t.toList) (taken : List String) (n : Nat) :
    ∀ c ∈ (uniqueName taken (p.structName?.getD ("Tuple" ++ toString n))).toList,
      Text.isIdentifierChar c = true := by
  have hbase : ∀ c ∈ (p.structName?.getD ("Tuple" ++ toString n)).toList,
      Text.isIdentifierChar c = true := by
    cases hname : p.structName? with
    | some declared => exact isIdentifierChar_of_structName? hascii hname
    | none =>
      have htuple : ("Tuple".toList.all Text.isIdentifierChar) = true := by decide +kernel
      exact keptByEndings_isIdentifierChar.number (List.all_eq_true.mp htuple) n
  exact keptByEndings_isIdentifierChar.of_uniqueName hbase taken

/-! ## Struct classes -/

/-- What the class of a parameter's struct is made of is quiet and ASCII. -/
structure Parameter.QuietStruct (p : Parameter) : Prop where
  internalType : ∀ t ∈ p.internalType, Text.IsAscii t.toList
  components : ∀ q ∈ p.components, ∀ t ∈ q.strings, SymbolFree t ∧ Text.IsAscii t.toList

theorem Parameter.quietStruct_of_strings {p : Parameter}
    (h : ∀ t ∈ p.strings, SymbolFree t ∧ Text.IsAscii t.toList) : p.QuietStruct where
  internalType t ht := (h t (internalType_mem_strings ht)).2
  components _ hq t ht := h t (strings_subset_of_mem_components hq ht)

theorem hereditary_quietStruct : StructRegistry.Hereditary Parameter.QuietStruct :=
  fun _ hp q hq => Parameter.quietStruct_of_strings (hp.components q hq)

theorem isAscii_outputsStructName {function : String} (h : Text.IsAscii function.toList) :
    Text.IsAscii (outputsStructName function).toList := by
  rw [outputsStructName, String.toList_append]
  refine .append ?_ (.ofList rfl)
  split
  · exact .ofList rfl
  · rw [String.toList_ofList]
    exact .pascalCase (h.of_subset (List.filter_subset_self _))

theorem ContractFunction.quietStruct_outputsParameter {f : ContractFunction}
    (hname : Text.IsAscii f.name.toList)
    (houtputs : ∀ p ∈ f.outputs, ∀ t ∈ p.strings, SymbolFree t ∧ Text.IsAscii t.toList) :
    f.outputsParameter.QuietStruct where
  components := houtputs
  internalType t ht := by
    obtain rfl : "struct " ++ outputsStructName f.name = t := by
      simpa [outputsParameter] using ht
    rw [String.toList_append]
    exact .append (.ofList rfl) (isAscii_outputsStructName hname)

namespace Contract

variable {c : Contract}

theorem quietStruct_of_mem_visited (hc : ∀ t ∈ c.strings, SymbolFree t ∧ Text.IsAscii t.toList) :
    ∀ p ∈ c.functions.flatMap StructRegistry.structParameters
      ++ c.events.flatMap StructRegistry.eventParameters, p.QuietStruct := by
  refine forall_visited (fun f hf p hp => ?_) (fun f hf _ => ?_) fun e he p hp => ?_
  · exact Parameter.quietStruct_of_strings fun t ht =>
      hc t (strings_subset_of_mem_function hf hp ht)
  · exact f.quietStruct_outputsParameter (hc _ (functionName_mem_strings hf)).2 fun q hq t ht =>
      hc t (strings_subset_of_mem_function hf (List.mem_append_right _ hq) ht)
  · exact Parameter.quietStruct_of_strings fun t ht =>
      hc t (strings_subset_of_mem_event he hp ht)

/-- The contract's name and those of library symbols are taken before any struct is defined. -/
theorem className_not_mem_reserved {name : String} {d : StructDefinition}
    (hd : d ∈ (c.structs name).definitions) : d.className ∉ name :: LibrarySymbol.names := by
  rw [structs_eq] at hd
  obtain ⟨-, new, hdefs, hfree⟩ := StructRegistry.extends_extract
    (({} : StructRegistry).reserveAll (name :: LibrarySymbol.names)) c
  rw [hdefs, StructRegistry.definitions_reserveAll] at hd
  intro hmem
  exact hfree d (by simpa using hd) (StructRegistry.subset_taken_reserveAll _ _ hmem)

/-- In the bindings of a quiet ASCII interface no struct class is called like a symbol, and the
fields of struct classes come from quiet components. -/
theorem quiet_structs (hc : ∀ t ∈ c.strings, SymbolFree t ∧ Text.IsAscii t.toList)
    (name : String) :
    (c.structs name).Quiet ∧ ∀ d ∈ (c.structs name).definitions, ∀ p ∈ d.fields,
      SymbolFree p.name ∧ p.parameter.Quiet := by
  have horigin {d : StructDefinition} (hd : d ∈ (c.structs name).definitions) :=
    exists_origin hereditary_quietStruct (quietStruct_of_mem_visited hc) hd
  constructor
  · -- a name made for outputs can hold that of a symbol as a part, but it is a single word
    intro d hd
    refine mentioned_word ?_ fun h => className_not_mem_reserved hd (List.mem_cons_of_mem _ h)
    obtain ⟨p, taken, n, hp, -, rfl⟩ := horigin hd
    exact isIdentifierChar_of_className hp.internalType taken n
  · intro d hd q hq
    obtain ⟨p, taken, n, hp, -, rfl⟩ := horigin hd
    have hquiet : ∀ q ∈ p.components, q.Quiet := fun q hq t ht => (hp.components q hq t ht).1
    exact ⟨symbolFree_name_of_mem_nameParameters (by decide +kernel) hquiet hq,
      hquiet _ (NameScope.property.parameter_mem_of_mem_nameParameters hq)⟩

end Contract

/-! ## Event classes -/

theorem SymbolFree.append_event {t : String} (h : SymbolFree t) : SymbolFree (t ++ "Event") := by
  have hends : ((List.range 5).all fun k => LibrarySymbol.all.all fun s =>
      !("Event".toList.take (k + 1)).isSuffixOf s.name.toList) = true := by decide +kernel
  refine h.append (by decide +kernel) fun s w hw hstart hsuffix => ?_
  have hpos : 0 < w.length := List.length_pos_iff.mpr hw
  have hle : w.length ≤ 5 := hstart.length_le
  have hk := List.all_eq_true.mp hends (w.length - 1) (List.mem_range.mpr (by omega))
  have hs := List.all_eq_true.mp hk s s.mem_all
  rw [Nat.sub_add_cancel hpos, ← List.prefix_iff_eq_take.mp hstart] at hs
  simp [List.isSuffixOf_iff_suffix.mpr hsuffix] at hs

end AbiBindings
