import AbiBindings.Proofs.Emit.ExactImports
import AbiBindings.Proofs.Struct.Distinct
import AbiBindings.Workspace.Settings

/-! # Names at the top level of a file

A file introduces the names of its imports and those of its classes, each of which begins with its
declaration (`declares_classTexts`). The classes of structs and events keep clear of each other, of
the contract's class and of the library, so the only names that can clash are that of the contract
and an imported one (`nodup_topLevelNames_iff`).

Nothing keeps classes clear of the names built into the language. A class has such a name where the
contract or the interface of a struct gives it, or where a struct is called like an integer type
without its width (`origin_of_builtin`). -/

namespace AbiBindings
set_option autoImplicit false

/-! ## Declarations -/

theorem Text.prefix_dropTrailing {p : Char → Bool} {s t : List Char} {c : Char}
    (h : s ++ [c] <+: t) (hc : p c = false) : s ++ [c] <+: dropTrailing p t := by
  obtain ⟨more, rfl⟩ := h
  have hkept : (s ++ [c]).reverse.dropWhile p = (s ++ [c]).reverse := by simp [hc]
  rw [dropTrailing, List.reverse_append, List.dropWhile_append, hkept]
  split
  · rw [List.reverse_reverse]
  · rw [List.reverse_append, List.reverse_reverse]
    exact List.prefix_append _ _

/-- How the declaration of a class begins. -/
def classHead (name : String) : String :=
  "export class " ++ name ++ " \x7b"

theorem toList_classHead (name : String) :
    (classHead name).toList = ("export class " ++ name ++ " ").toList ++ ['\x7b'] := by
  simp [classHead]

theorem Template.prefix_fill {t : Template} {value : Slot → String} {name : String}
    {rest : List Piece} (hname : value .className = name)
    (h : t.pieces = .text "export class " :: .slot .className :: .text " \x7b\n" :: rest) :
    (classHead name).toList <+: (t.fill value).toList := by
  rw [fill, Text.trimEnd, String.toList_ofList, toList_classHead]
  refine Text.prefix_dropTrailing ?_ (by decide +kernel)
  refine ⟨'\n' :: ("".intercalate (rest.map (pieceText value))).toList, ?_⟩
  rw [h, List.map_cons, List.map_cons, List.map_cons, concat_cons, concat_cons, concat_cons]
  simp [pieceText, hname]

namespace SourceFile

/-- The names of the classes of a file in order. -/
def classNames (f : SourceFile) : List String :=
  f.contract.name :: (f.structs.map StructClass.name ++ f.events.map EventClass.name)

/-- The classes of a file as they are written, in order. -/
def classTexts (f : SourceFile) : List String :=
  f.contract.text :: (f.structs.map StructClass.text ++ f.events.map EventClass.text)

/-- The names that a file introduces at its top level. -/
def topLevelNames (f : SourceFile) : List String :=
  f.imports.sortedNames ++ f.classNames

theorem text_eq_intercalate (f : SourceFile) :
    f.text = "\n\n".intercalate (f.imports.render :: f.classTexts) ++ "\n" :=
  rfl

theorem declares_classTexts (f : SourceFile) :
    List.Forall₂ (fun name text => (classHead name).toList <+: text.toList)
      f.classNames f.classTexts := by
  refine .cons (Template.prefix_fill rfl rfl) (List.rel_append ?_ ?_)
  · rw [List.forall₂_map_left_iff, List.forall₂_map_right_iff]
    exact List.forall₂_same.mpr fun s _ => Template.prefix_fill rfl rfl
  · rw [List.forall₂_map_left_iff, List.forall₂_map_right_iff]
    exact List.forall₂_same.mpr fun e _ => Template.prefix_fill rfl rfl

end SourceFile

/-! ## Class names are distinct -/

namespace StructRegistry

variable (r : StructRegistry)

theorem names_structClasses :
    r.structClasses.map StructClass.name = r.definitions.map StructDefinition.className := by
  rw [structClasses, List.map_map]
  rfl

theorem names_eventClasses (events : List ContractEvent) :
    (r.eventClasses events).map EventClass.name =
      uniqueNames r.taken (events.map ContractEvent.classStem) := by
  apply List.ext_getElem
  · simp [eventClasses]
  · intro i _ _
    simp [eventClasses, eventClass]

end StructRegistry

namespace Contract

variable (c : Contract) (library name : String)

theorem classNames_bindings :
    (c.bindings library name).classNames =
      name :: ((c.structs name).definitions.map StructDefinition.className
        ++ uniqueNames (c.structs name).taken (c.events.map ContractEvent.classStem)) := by
  rw [← StructRegistry.names_structClasses, ← StructRegistry.names_eventClasses]
  rfl

theorem wellKept_structs : (c.structs name).WellKept := by
  rw [structs]
  refine StructRegistry.WellKept.of_defines ?_ (StructRegistry.registerAll_defines_true _ _)
  have hreserved : ∀ (names : List String) (r : StructRegistry), r.WellKept →
      (r.reserveAll names).WellKept := by
    intro names
    induction names with
    | nil => exact fun r hr => hr
    | cons n names ih => exact fun r hr => ih _ (hr.reserve n)
  exact hreserved _ _ (StructRegistry.wellKept_empty.reserve name)

theorem reserved_subset_taken : name :: LibrarySymbol.names ⊆ (c.structs name).taken := by
  rw [structs_eq]
  exact List.Subset.trans (StructRegistry.subset_taken_reserveAll _ _)
    (StructRegistry.extends_extract _ c).1

/-- The classes of structs and events have neither the contract's name nor one of the library's. -/
theorem not_mem_reserved_of_mem_classNames {n : String}
    (hn : n ∈ (c.structs name).definitions.map StructDefinition.className
      ++ uniqueNames (c.structs name).taken (c.events.map ContractEvent.classStem)) :
    n ∉ name :: LibrarySymbol.names := by
  rcases List.mem_append.mp hn with hn | hn
  · obtain ⟨d, hd, rfl⟩ := List.mem_map.mp hn
    exact className_not_mem_reserved hd
  · exact fun hmem => not_mem_taken_of_mem_uniqueNames hn (c.reserved_subset_taken name hmem)

theorem nodup_classNames : (c.bindings library name).classNames.Nodup := by
  have hkept := c.wellKept_structs name
  rw [classNames_bindings, List.nodup_cons, List.nodup_append]
  refine ⟨fun hmem => ?_, hkept.names_nodup, nodup_uniqueNames _ _, ?_⟩
  · exact c.not_mem_reserved_of_mem_classNames name hmem List.mem_cons_self
  · rintro n hstruct m hevent rfl
    obtain ⟨d, hd, rfl⟩ := List.mem_map.mp hstruct
    exact not_mem_taken_of_mem_uniqueNames hevent (hkept.names_taken d hd)

theorem nodup_topLevelNames_iff :
    (c.bindings library name).topLevelNames.Nodup ↔
      name ∉ (c.bindings library name).imports.sortedNames := by
  set file := c.bindings library name with hfile
  have himports : file.imports.sortedNames.Nodup := Imports.nodup_sortedNames _
  have hclasses : file.classNames.Nodup := c.nodup_classNames library name
  rw [SourceFile.topLevelNames, List.nodup_append]
  constructor
  · rintro ⟨-, -, hapart⟩ hmem
    exact hapart name hmem name List.mem_cons_self rfl
  · refine fun hname => ⟨himports, hclasses, ?_⟩
    rintro n himport m hclass rfl
    have hexported : n ∈ LibrarySymbol.names := (Imports.sortedNames_sublist _).subset himport
    rw [hfile, classNames_bindings] at hclass
    rcases List.mem_cons.mp hclass with rfl | hclass
    · exact hname himport
    · exact c.not_mem_reserved_of_mem_classNames name hclass (List.mem_cons_of_mem _ hexported)

end Contract

/-! ## Built-in names -/

/-- The names built into the language that emitted code relies on. -/
def builtinNames : List String :=
  ["Date", "Error", "bool", "string", "i8", "u8"]

/-- The integer types of one byte, without their width. -/
def byteStems : List String :=
  ["i", "u"]

/-- Only the types of one byte have a number at the end. -/
theorem of_append_toString_mem_builtinNames {base : String} {k : Nat}
    (h : base ++ toString k ∈ builtinNames) : base ∈ byteStems ∧ toString k = "8" := by
  have hends : ∀ n ∈ builtinNames, ∀ i < n.toList.length,
      (n.toList.drop i).all Char.isDigit = true →
        n.toList.take i ∈ byteStems.map String.toList ∧ n.toList.drop i = ['8'] := by
    decide +kernel
  have hlist : (base ++ toString k).toList = base.toList ++ (toString k).toList :=
    String.toList_append
  have hne : (toString k).toList ≠ [] := by
    rw [Nat.toString_eq_repr, Nat.toList_repr]
    exact Nat.toDigits_ne_nil
  have hlt : base.toList.length < (base ++ toString k).toList.length := by
    have hpos := List.length_pos_iff.mpr hne
    rw [hlist, List.length_append]
    omega
  obtain ⟨hbase, hnumber⟩ := hends _ h base.toList.length hlt <| by
    rw [hlist, List.drop_left]
    exact List.all_eq_true.mpr fun _ => isDigit_of_mem_toString
  rw [hlist, List.take_left] at hbase
  rw [hlist, List.drop_left] at hnumber
  obtain ⟨stem, hstem, heq⟩ := List.mem_map.mp hbase
  rw [String.toList_inj] at heq
  exact ⟨heq ▸ hstem, String.toList_inj.mp (hnumber.trans rfl)⟩

theorem not_mem_builtinNames_of_mem {c : Char} (hc : c ∈ ['v', 'p']) {n : String}
    (h : c ∈ n.toList) : n ∉ builtinNames := by
  have hnone : ∀ n ∈ builtinNames, (n.toList.all fun d => d ∉ ['v', 'p']) = true := by
    decide +kernel
  intro hmem
  have hall := List.all_eq_true.mp (hnone n hmem) c h
  simp only [decide_eq_true_eq] at hall
  exact hall hc

/-- A name made for a struct is never built in, and a declared one is when it was declared so or
when its number makes it one of the types of a byte. -/
theorem origin_of_builtin_uniqueName {taken : List String} {declared? : Option String} {k : Nat}
    {n : String} (h : uniqueName taken (declared?.getD ("Tuple" ++ toString k)) = n)
    (hn : n ∈ builtinNames) :
    declared? = some n ∨ ∃ stem ∈ byteStems, declared? = some stem ∧ n = stem ++ "8" := by
  have hname := uniqueName_eq taken (declared?.getD ("Tuple" ++ toString k))
  rw [h] at hname
  cases declared? with
  | none =>
    rw [Option.getD_none] at hname
    refine absurd hn (not_mem_builtinNames_of_mem (c := 'p') (by simp) ?_)
    rcases hname with rfl | ⟨m, rfl⟩
    · simp
    · simp
  | some declared =>
    rw [Option.getD_some] at hname
    rcases hname with rfl | ⟨m, rfl⟩
    · exact .inl rfl
    · obtain ⟨hstem, height⟩ := of_append_toString_mem_builtinNames hn
      exact .inr ⟨declared, hstem, rfl, by rw [height]⟩

theorem eventName_not_mem_builtinNames {taken : List String} {events : List ContractEvent}
    {n : String} (h : n ∈ uniqueNames taken (events.map ContractEvent.classStem)) :
    n ∉ builtinNames := by
  obtain ⟨stem, hstem, hname⟩ := of_mem_uniqueNames h
  obtain ⟨e, -, rfl⟩ := List.mem_map.mp hstem
  refine not_mem_builtinNames_of_mem (c := 'v') (by simp) ?_
  rcases hname with rfl | ⟨k, rfl⟩
  · simp [ContractEvent.classStem]
  · simp [ContractEvent.classStem]

namespace Contract

variable {c : Contract} {library name : String}

/-- Where a class gets the name of something built in from: it is that of the contract, or the
declared one of a struct, or declared as one of the types of a byte up to its number. -/
theorem origin_of_builtin {n : String} (hclass : n ∈ (c.bindings library name).classNames)
    (hn : n ∈ builtinNames) :
    n = name ∨ ∃ d ∈ (c.structs name).definitions, d.className = n ∧
      (d.structName = some n ∨ ∃ stem ∈ byteStems, d.structName = some stem ∧ n = stem ++ "8") := by
  rw [classNames_bindings] at hclass
  rcases List.mem_cons.mp hclass with hclass | hclass
  · exact .inl hclass
  · rcases List.mem_append.mp hclass with hclass | hclass
    · obtain ⟨d, hd, hname⟩ := List.mem_map.mp hclass
      refine .inr ⟨d, hd, hname, ?_⟩
      obtain ⟨p, taken, k, -, -, rfl⟩ :=
        exists_origin (P := fun _ => True) (fun _ _ _ _ => trivial) (fun _ _ => trivial) hd
      exact origin_of_builtin_uniqueName hname hn
    · exact absurd hn (eventName_not_mem_builtinNames hclass)

/-- A file introduces the names of its imports and of its classes, which it declares one by one.
The names are distinct unless the contract is called like an imported symbol; and where a class has
a built-in name, the contract or the struct is declared with it. -/
theorem top_level_names_clash_by_declaration_only (c : Contract) (library name : String) :
    let file := c.bindings library name
    file.text = "\n\n".intercalate (file.imports.render :: file.classTexts) ++ "\n" ∧
      List.Forall₂ (fun n text => (classHead n).toList <+: text.toList)
        file.classNames file.classTexts ∧
      (file.topLevelNames.Nodup ↔ name ∉ file.imports.sortedNames) ∧
      ∀ n ∈ file.classNames, n ∈ builtinNames →
        n = name ∨ ∃ d ∈ (c.structs name).definitions, d.className = n ∧
          (d.structName = some n ∨
            ∃ stem ∈ byteStems, d.structName = some stem ∧ n = stem ++ "8") :=
  ⟨SourceFile.text_eq_intercalate _, SourceFile.declares_classTexts _,
    c.nodup_topLevelNames_iff library name, fun _ => origin_of_builtin⟩

/-- A ledger with a struct `Error` keeps that name for the class, although its classes throw the
error built into the language; and called `Address` it declares that name beside importing it. -/
theorem top_level_names_of_ledger :
    let error : Parameter :=
      { name := "reason", typeText := "tuple", internalType := some "struct Ledger.Error"
        components := [{ name := "code", typeText := "uint256" }] }
    let ledger : Contract := { entries := [
      .function { name := "report", inputs := [error], outputs := [], mutability := .nonpayable }] }
    ledger.isEmpty = false ∧
      Settings.isContractName "Ledger" = true ∧ Settings.isContractName "Address" = true ∧
      (∃ n ∈ (ledger.bindings "lib" "Ledger").classNames, n ∈ builtinNames) ∧
      ¬ (ledger.bindings "lib" "Address").topLevelNames.Nodup := by
  decide +kernel

end Contract
end AbiBindings
