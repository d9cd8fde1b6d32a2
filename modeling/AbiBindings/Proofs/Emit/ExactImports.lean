import AbiBindings.Proofs.Emit.ClassNames

/-! # Imports are exact

The bindings of a contract are one import statement and the classes behind it (`text_eq`). Each
class mentions what it asks for, so in a quiet ASCII interface the statement names just the
library symbols among the identifiers of the classes. -/

namespace AbiBindings
set_option autoImplicit false

/-! ## The contract class -/

namespace ContractClass

variable {c : ContractClass}

theorem slots_contractClass : Template.contractClass.slots = [.className, .methods] :=
  rfl

theorem mem_mentioned_text (hname : mentioned c.name = []) {s : LibrarySymbol} :
    s ∈ mentioned c.text ↔
      s ∈ [LibrarySymbol.address, .chainId, .tokenAmount] ∨
        ∃ m ∈ c.methods, s ∈ mentioned m.text := by
  have hmethods : mentioned ("".intercalate (c.methods.map fun m => "\n\n" ++ m.text)) =
      c.methods.flatMap fun m => mentioned m.text := by
    rw [← String.empty_append (s := "".intercalate _),
      mentioned_append_concat_map (k := fun m => mentioned m.text), mentioned_empty,
      List.nil_append]
    · exact fun m => startsApart_ofList_append rfl _
    · intro m _
      rw [mentioned_lead [] rfl]
      rfl
  unfold text
  rw [Template.mem_mentioned_fill Template.fenced_contractClass, slots_contractClass]
  simp only [List.mem_cons, List.not_mem_nil, or_false, exists_eq_or_imp, exists_eq_left]
  rw [hname, hmethods, List.mem_flatMap]
  simp only [List.not_mem_nil, false_or]
  grind

end ContractClass

/-! ## Import statements -/

namespace LibrarySymbol

theorem pairwise_names : names.Pairwise fun a b => a.toLower < b.toLower := by
  decide +kernel

end LibrarySymbol

namespace Imports

/-- The names depend on which symbols were asked for, not on when or how often. -/
theorem sortedNames_congr {i j : Imports} (h : ∀ s, s ∈ i.symbols ↔ s ∈ j.symbols) :
    i.sortedNames = j.sortedNames := by
  rw [sortedNames, sortedNames, List.filter_congr fun s _ => ?_]
  rw [Bool.eq_iff_iff, List.contains_iff_mem, List.contains_iff_mem]
  exact h s

theorem mem_sortedNames {i : Imports} {n : String} :
    n ∈ i.sortedNames ↔ ∃ s ∈ i.symbols, s.name = n := by
  rw [sortedNames, List.mem_map]
  refine exists_congr fun s => and_congr_left fun _ => ?_
  rw [List.mem_filter, List.contains_iff_mem]
  exact and_iff_right s.mem_all

theorem sortedNames_sublist (i : Imports) : i.sortedNames.Sublist LibrarySymbol.names :=
  List.filter_sublist.map LibrarySymbol.name

theorem pairwise_sortedNames (i : Imports) :
    i.sortedNames.Pairwise fun a b => a.toLower < b.toLower :=
  LibrarySymbol.pairwise_names.sublist i.sortedNames_sublist

theorem nodup_sortedNames (i : Imports) : i.sortedNames.Nodup :=
  i.pairwise_sortedNames.imp fun {_ _} h heq => absurd (heq ▸ h) (String.lt_irrefl _)

theorem render_eq {i : Imports} {s : LibrarySymbol} (h : s ∈ i.symbols) :
    i.render =
      "import \x7b " ++ ", ".intercalate i.sortedNames ++ " \x7d from '" ++ i.module ++ "'" := by
  rw [render, if_neg]
  rw [List.isEmpty_iff]
  exact List.ne_nil_of_mem h

end Imports

namespace SourceFile

/-- The classes of a file, as they stand behind the import statement. -/
def classesText (f : SourceFile) : String :=
  "\n\n".intercalate (f.contract.text :: f.structs.map StructClass.text
    ++ f.events.map EventClass.text) ++ "\n"

theorem text_eq (f : SourceFile) : f.text = f.imports.render ++ "\n\n" ++ f.classesText := by
  rw [text, classesText, List.cons_append, List.cons_append, String.intercalate_cons_cons,
    String.append_assoc]

theorem mem_mentioned_classesText {f : SourceFile} {s : LibrarySymbol} :
    s ∈ mentioned f.classesText ↔ s ∈ mentioned f.contract.text ∨
      (∃ k ∈ f.structs, s ∈ mentioned k.text) ∨ ∃ k ∈ f.events, s ∈ mentioned k.text := by
  rw [classesText, mentioned_trail [] rfl, List.append_nil, mentioned_intercalate rfl,
    List.cons_append, List.flatMap_cons, List.flatMap_append, List.flatMap_map, List.flatMap_map,
    List.mem_append, List.mem_append, List.mem_flatMap, List.mem_flatMap]

end SourceFile

namespace Contract

variable {c : Contract} {library name : String}

theorem mem_mentioned_bindings (hname : SymbolFree name)
    (hc : ∀ t ∈ c.strings, SymbolFree t ∧ Text.IsAscii t.toList) {s : LibrarySymbol} :
    s ∈ mentioned (c.bindings library name).classesText ↔
      s ∈ (c.bindings library name).symbols := by
  obtain ⟨hquiet, hfields⟩ := quiet_structs hc name
  have hmethod : ∀ m ∈ (c.bindings library name).contract.methods,
      s ∈ mentioned m.text ↔ s ∈ m.symbols := by
    intro m hm
    obtain ⟨f, hf, chosen, hchosen, rfl⟩ := (c.structs name).of_mem_methods hm
    have hparameters : ∀ p ∈ f.inputs ++ f.outputs, p.Quiet := fun p hp t ht =>
      (hc t (strings_subset_of_mem_function hf hp ht)).1
    refine hquiet.mem_mentioned_method hparameters (SymbolFree.mentioned_eq_nil ?_)
    refine keptByEndings_symbolFree.of_mem_resolve (List.forall_mem_map.mpr fun g hg => ?_) hchosen
    exact (hc _ (functionName_mem_strings hg)).1
  have hstruct : ∀ k ∈ (c.bindings library name).structs,
      s ∈ mentioned k.text ↔ s ∈ k.symbols := by
    intro k hk
    obtain ⟨d, hd, rfl⟩ := List.mem_map.mp hk
    exact hquiet.mem_mentioned_structClass hd (hfields d hd)
  have hevent : ∀ k ∈ (c.bindings library name).events,
      s ∈ mentioned k.text ↔ s ∈ k.symbols := by
    intro k hk
    obtain ⟨e, he, chosen, hchosen, rfl⟩ := (c.structs name).of_mem_eventClasses hk
    have hinputs : ∀ p ∈ e.inputs, p.Quiet := fun p hp t ht =>
      (hc t (strings_subset_of_mem_event he hp ht)).1
    refine hquiet.mem_mentioned_eventClass (hc _ (eventName_mem_strings he)).1 hinputs
      (SymbolFree.mentioned_eq_nil ?_)
    refine keptByEndings_symbolFree.of_mem_uniqueNames
      (List.forall_mem_map.mpr fun e' he' => ?_) hchosen
    exact (hc _ (eventName_mem_strings he')).1.append_event
  rw [SourceFile.mem_mentioned_classesText, SourceFile.symbols, List.mem_append, List.mem_append,
    List.mem_flatMap, List.mem_flatMap, or_assoc]
  refine or_congr ?_ (or_congr ?_ ?_)
  · rw [ContractClass.mem_mentioned_text hname.mentioned_eq_nil, ContractClass.symbols,
      List.mem_append, List.mem_flatMap]
    exact or_congr_right (exists_congr fun m => and_congr_right fun hm => hmethod m hm)
  · exact exists_congr fun k => and_congr_right fun hk => hstruct k hk
  · exact exists_congr fun k => and_congr_right fun hk => hevent k hk

/-- The bindings of a quiet ASCII interface begin with a single import statement. It lists, each
once and in order whatever order they are asked for in, just those library symbols that are
identifiers of the classes behind it. -/
theorem imports_are_exact (c : Contract) (library name : String) (hitems : c.isEmpty = false)
    (hascii : ∀ t ∈ name :: c.strings, Text.IsAscii t.toList)
    (hfree : ∀ t ∈ name :: c.strings, SymbolFree t) :
    let file := c.bindings library name
    let listed := file.imports.sortedNames
    c.bindingsText library name =
        "import \x7b " ++ ", ".intercalate listed ++ " \x7d from '" ++ library ++ "'" ++ "\n\n"
          ++ file.classesText ∧
      (∀ n, n ∈ listed ↔ n ∈ LibrarySymbol.names ∧ n ∈ Text.identifiers file.classesText) ∧
      listed.Nodup ∧
      listed.Pairwise (fun a b => a.toLower < b.toLower) ∧
      ∀ asked : List LibrarySymbol, (∀ s, s ∈ asked ↔ s ∈ file.symbols) →
        (({ module := library } : Imports).addAll asked).sortedNames = listed := by
  intro file listed
  have hquiet : ∀ t ∈ c.strings, SymbolFree t ∧ Text.IsAscii t.toList := fun t ht =>
    ⟨hfree t (List.mem_cons_of_mem _ ht), hascii t (List.mem_cons_of_mem _ ht)⟩
  have hmentioned (s : LibrarySymbol) :
      s ∈ file.symbols ↔ s.name ∈ Text.identifiers file.classesText :=
    (mem_mentioned_bindings (hfree name List.mem_cons_self) hquiet).symm.trans
      mem_mentioned_iff_mem_identifiers
  refine ⟨?_, fun n => ?_, Imports.nodup_sortedNames _, Imports.pairwise_sortedNames _, ?_⟩
  · have haddress : LibrarySymbol.address ∈ file.imports.symbols :=
      List.mem_append_left _ (List.mem_append_left _ List.mem_cons_self)
    rw [bindingsText, hitems, SourceFile.text_eq, Imports.render_eq haddress]
    rfl
  · rw [Imports.mem_sortedNames]
    constructor
    · rintro ⟨s, hs, rfl⟩
      exact ⟨List.mem_map_of_mem s.mem_all, (hmentioned s).mp hs⟩
    · rintro ⟨hn, hmem⟩
      obtain ⟨s, -, rfl⟩ := List.mem_map.mp hn
      exact ⟨s, (hmentioned s).mpr hmem, rfl⟩
  · exact fun asked h => Imports.sortedNames_congr h

/-- A pool that is only read from: its classes do without the builder of calls. -/
theorem imports_of_pool :
    let key : Parameter :=
      { name := "keys", typeText := "tuple[]", internalType := some "struct Pool.Key[]"
        components := [{ name := "fee", typeText := "uint24" }, { typeText := "bytes32" }] }
    let pool : Contract := { entries := [
      .function { name := "quote", inputs := [key], outputs := [{ typeText := "bool" }],
                  mutability := .view },
      .event { name := "Swap", anonymous := false,
               inputs := [{ name := "memo", typeText := "string", indexed := true }, key] }] }
    let file := pool.bindings "library" "Pool"
    pool.isEmpty = false ∧
      (∀ t ∈ "Pool" :: pool.strings, Text.IsAscii t.toList ∧ SymbolFree t) ∧
      file.imports.sortedNames =
        ["Address", "BigInt", "Bytes", "ChainId", "environment", "evm", "EvmDecodeParam",
         "EvmEncodeParam", "parseCSVNotNullable", "Result", "TokenAmount"] ∧
      "EvmCallBuilder" ∉ Text.identifiers file.classesText := by
  intro key pool file
  have hitems : pool.isEmpty = false := rfl
  have hascii : ∀ t ∈ "Pool" :: pool.strings, Text.IsAscii t.toList := by decide +kernel
  have hfree : ∀ t ∈ "Pool" :: pool.strings, SymbolFree t := by decide +kernel
  have hnames : file.imports.sortedNames =
      ["Address", "BigInt", "Bytes", "ChainId", "environment", "evm", "EvmDecodeParam",
       "EvmEncodeParam", "parseCSVNotNullable", "Result", "TokenAmount"] := by decide +kernel
  obtain ⟨-, hexact, -⟩ := imports_are_exact pool "library" "Pool" hitems hascii hfree
  refine ⟨hitems, fun t ht => ⟨hascii t ht, hfree t ht⟩, hnames, fun hmem => ?_⟩
  have hlisted := (hexact "EvmCallBuilder").mpr ⟨by decide, hmem⟩
  rw [hnames] at hlisted
  simp at hlisted

end Contract
end AbiBindings
