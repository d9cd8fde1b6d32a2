import AbiBindings.Emit.Rendering
import AbiBindings.Proofs.Emit.TopLevelNames
import AbiBindings.Proofs.Results

/-! # Generation never fails

The loose data of a class name every slot of its template, so each class is rendered, and as it is
written (`render_eq_ok`). Every class ends where its template is trimmed, so a file ends with one
line break (`exists_last_text`). What is generated depends on the functions and on the events of a
contract, each in their order, and not on how the two are mixed
(`generation_reads_functions_and_events`). -/

namespace AbiBindings
set_option autoImplicit false

/-! ## Templates -/

namespace Template

theorem fill_congr {t : Template} {value other : Slot → String}
    (h : ∀ s ∈ t.slots, value s = other s) : t.fill value = t.fill other := by
  rw [fill, fill, List.map_congr_left]
  intro piece hpiece
  cases piece with
  | text s => rfl
  | slot s => exact h s (mem_slots.mpr hpiece)

theorem find?_name {t : Template} (ht : t ∈ all) : all.find? (·.name == t.name) = some t := by
  simp only [all, List.mem_cons, List.not_mem_nil, or_false] at ht
  rcases ht with rfl | rfl | rfl <;> rfl

/-- Data that have a text for every slot of a template are enough to render it. -/
theorem renderTemplate_eq_ok {t : Template} (ht : t ∈ all) {data : Json} {value : Slot → String}
    (h : ∀ s ∈ t.slots, (data.get? s.name).map Json.slotText = some (value s)) :
    renderTemplate t.name data = .ok (t.fill value) := by
  have hnone : t.slots.find? (fun s => (data.get? s.name).isNone) = none := by
    refine List.find?_eq_none.mpr fun s hs => ?_
    obtain ⟨v, hv, -⟩ := Option.map_eq_some_iff.mp (h s hs)
    simp [hv]
  simp only [renderTemplate, find?_name ht, hnone]
  refine congrArg Except.ok (fill_congr fun s hs => ?_)
  rw [h s hs]
  rfl

end Template

/-! ## Classes -/

theorem renderTemplate_contractClass (c : ContractClass) :
    renderTemplate Template.contractClass.name c.data = .ok c.text := by
  refine Template.renderTemplate_eq_ok (by simp [Template.all]) ?_
  simp only [ContractClass.slots_contractClass, List.forall_mem_cons]
  exact ⟨rfl, rfl, nofun⟩

theorem renderTemplate_structClass (c : StructClass) :
    renderTemplate Template.structClass.name c.data = .ok c.text := by
  refine Template.renderTemplate_eq_ok (by simp [Template.all]) ?_
  simp only [StructClass.slots_structClass, List.forall_mem_cons]
  exact ⟨rfl, rfl, rfl, rfl, rfl, rfl, rfl, rfl, rfl, rfl, nofun⟩

theorem renderTemplate_eventClass (c : EventClass) :
    renderTemplate Template.eventClass.name c.data = .ok c.text := by
  refine Template.renderTemplate_eq_ok (by simp [Template.all]) ?_
  simp only [EventClass.slots_eventClass, List.forall_mem_cons]
  exact ⟨rfl, rfl, rfl, rfl, rfl, rfl, rfl, rfl, nofun⟩

/-! ## Files -/

theorem Imports.render_ne_empty {i : Imports} {s : LibrarySymbol} (h : s ∈ i.symbols) :
    i.render ≠ "" := by
  rw [Imports.render_eq h]
  simp

/-- Every file is rendered, as it is written. -/
theorem SourceFile.render_eq_ok (f : SourceFile) : f.render = .ok f.text := by
  have himports : f.imports.render.isEmpty = false := by
    rw [String.isEmpty_eq_false_iff]
    refine Imports.render_ne_empty (s := .address) ?_
    simp [imports, symbols, ContractClass.symbols]
  have hstructs : f.structs.mapM (fun k => renderTemplate Template.structClass.name k.data) =
      .ok (f.structs.map StructClass.text) :=
    mapM_eq_ok_iff.mpr <| List.forall₂_map_right_iff.mpr <|
      List.forall₂_same.mpr fun k _ => renderTemplate_structClass k
  have hevents : f.events.mapM (fun k => renderTemplate Template.eventClass.name k.data) =
      .ok (f.events.map EventClass.text) :=
    mapM_eq_ok_iff.mpr <| List.forall₂_map_right_iff.mpr <|
      List.forall₂_same.mpr fun k _ => renderTemplate_eventClass k
  rw [render, renderTemplate_contractClass, hstructs, hevents]
  simp only [himports]
  rfl

theorem Contract.generate_eq_ok (c : Contract) (library name : String) :
    c.generate library name = .ok (c.bindingsText library name) := by
  rw [generate, bindingsText, SourceFile.render_eq_ok]
  split <;> rfl

/-! ## Where files end -/

theorem Text.isBlank_last_trimEnd {s : String} {front : List Char} {last : Char}
    (h : (trimEnd s).toList = front ++ [last]) : isBlank last = false := by
  rw [trimEnd, String.toList_ofList, dropTrailing, List.reverse_eq_iff, List.reverse_append] at h
  have hhead := List.head?_dropWhile_not isBlank s.toList.reverse
  rw [h] at hhead
  simpa using hhead

theorem Template.exists_last_fill {t : Template} {value : Slot → String} {name : String}
    {rest : List Piece} (hname : value .className = name)
    (h : t.pieces = .text "export class " :: .slot .className :: .text " \x7b\n" :: rest) :
    ∃ front last, (t.fill value).toList = front ++ [last] ∧ Text.isBlank last = false := by
  obtain ⟨more, hmore⟩ := prefix_fill hname h
  have hne : (t.fill value).toList ≠ [] := by
    rw [← hmore, toList_classHead]
    simp
  have hlast := (List.dropLast_append_getLast hne).symm
  exact ⟨_, _, hlast, Text.isBlank_last_trimEnd hlast⟩

theorem exists_prefix_intercalate (separator : String) {texts : List String} (hne : texts ≠ []) :
    ∃ front, (separator.intercalate texts).toList = front ++ (texts.getLast hne).toList := by
  induction texts with
  | nil => exact absurd rfl hne
  | cons first rest ih =>
    cases rest with
    | nil => exact ⟨[], by simp⟩
    | cons second rest =>
      obtain ⟨front, hfront⟩ := ih (List.cons_ne_nil _ _)
      refine ⟨first.toList ++ separator.toList ++ front, ?_⟩
      rw [String.intercalate_cons_cons, String.toList_append, String.toList_append, hfront,
        List.getLast_cons_cons, List.append_assoc, List.append_assoc, List.append_assoc]

namespace SourceFile

theorem exists_last_classText {f : SourceFile} {text : String} (h : text ∈ f.classTexts) :
    ∃ front last, text.toList = front ++ [last] ∧ Text.isBlank last = false := by
  simp only [classTexts, List.mem_cons, List.mem_append, List.mem_map] at h
  rcases h with rfl | ⟨k, -, rfl⟩ | ⟨k, -, rfl⟩
  · exact Template.exists_last_fill rfl rfl
  · exact Template.exists_last_fill rfl rfl
  · exact Template.exists_last_fill rfl rfl

/-- A file ends with a line break, and none comes before it. -/
theorem exists_last_text (f : SourceFile) :
    ∃ front last, f.text.toList = front ++ [last, '\n'] ∧ Text.isBlank last = false := by
  have hne : f.imports.render :: f.classTexts ≠ [] := List.cons_ne_nil _ _
  have hmem : (f.imports.render :: f.classTexts).getLast hne ∈ f.classTexts := by
    rw [List.getLast_cons (by simp [classTexts])]
    exact List.getLast_mem _
  obtain ⟨before, hbefore⟩ := exists_prefix_intercalate "\n\n" hne
  obtain ⟨front, last, hlast, hblank⟩ := exists_last_classText hmem
  refine ⟨before ++ front, last, ?_, hblank⟩
  rw [text_eq_intercalate, String.toList_append, hbefore, hlast]
  simp

end SourceFile

/-! ## What is generated -/

namespace Contract

theorem entries_eq_nil_iff {c : Contract} : c.entries = [] ↔ c.functions = [] ∧ c.events = [] := by
  constructor
  · intro h
    simp [functions, events, h]
  · rintro ⟨hfunctions, hevents⟩
    rw [List.eq_nil_iff_forall_not_mem]
    intro entry hentry
    cases entry with
    | function f =>
      have := List.filterMap_eq_nil_iff.mp hfunctions _ hentry
      simp [Entry.function?] at this
    | event e =>
      have := List.filterMap_eq_nil_iff.mp hevents _ hentry
      simp [Entry.event?] at this

theorem bindingsText_congr {c d : Contract} (hfunctions : d.functions = c.functions)
    (hevents : d.events = c.events) (library name : String) :
    d.bindingsText library name = c.bindingsText library name := by
  have hempty : d.isEmpty = c.isEmpty := by
    rw [Bool.eq_iff_iff]
    simp only [isEmpty, List.isEmpty_iff, entries_eq_nil_iff, hfunctions, hevents]
  have hstructs : d.structs name = c.structs name := by
    rw [structs, structs, StructRegistry.extract, StructRegistry.extract, hfunctions, hevents]
  have hclass (r : StructRegistry) : r.contractClass d name = r.contractClass c name := by
    rw [StructRegistry.contractClass, StructRegistry.contractClass, hfunctions]
  rw [bindingsText, bindingsText, bindings, bindings, hempty, hstructs, hclass, hevents]

theorem exists_last_bindingsText {c : Contract} (hne : c.entries ≠ []) (library name : String) :
    ∃ front last, (c.bindingsText library name).toList = front ++ [last, '\n'] ∧ last ≠ '\n' := by
  have hempty : c.isEmpty = false := by simpa [isEmpty] using hne
  obtain ⟨front, last, htext, hblank⟩ := (c.bindings library name).exists_last_text
  refine ⟨front, last, ?_, ?_⟩
  · rw [bindingsText, hempty, if_neg Bool.false_ne_true, htext]
  · rintro rfl
    exact absurd hblank (by decide)

/-- Every contract gets its text of bindings: none where there is nothing to bind, and otherwise
one that ends with a single line break. Only the functions and the events count, each in their
order. -/
theorem generation_reads_functions_and_events (c : Contract) (library name : String) :
    ∃ text, c.generate library name = .ok text ∧ c.bindingsText library name = text ∧
      (text = "" ↔ c.entries = []) ∧
      (c.entries ≠ [] → ∃ front last, text.toList = front ++ [last, '\n'] ∧ last ≠ '\n') ∧
      ∀ d : Contract, d.functions = c.functions → d.events = c.events →
        d.generate library name = .ok text := by
  refine ⟨_, c.generate_eq_ok library name, rfl, ⟨fun htext => ?_, fun hnil => ?_⟩,
    fun hne => exists_last_bindingsText hne library name, fun d hfunctions hevents => ?_⟩
  · by_contra hne
    obtain ⟨front, last, hlast, -⟩ := exists_last_bindingsText hne library name
    simp [htext] at hlast
  · rw [bindingsText, isEmpty, hnil, List.isEmpty_nil, if_pos rfl]
  · rw [d.generate_eq_ok, bindingsText_congr hfunctions hevents]

end Contract

end AbiBindings
