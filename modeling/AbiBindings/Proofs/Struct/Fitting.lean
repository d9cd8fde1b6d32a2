import AbiBindings.Struct.Registry
import AbiBindings.Proofs.Abi.Levels
import AbiBindings.Proofs.Names.Resolution
import Mathlib.Data.List.Forall2

/-! # When components fit a definition

Fitting is a comparison component by component (`fits_iff`). It is symmetric (`Alike.symm`) and not
transitive, but two lists that both agree with one fully named list agree with each other
(`Alike.of_named`). The look-up answers with a definition that fits, and has an answer exactly when
there is one (`find?_eq_some`, `isSome_find?`); array levels and their place in the internal type
do not matter to it (`find?_element`, `find?_innermost`). -/

namespace AbiBindings
set_option autoImplicit false

/-! ## Lists of components -/

/-- Two lists of components of one length that agree one by one. -/
def Alike (known candidate : List Parameter) : Prop :=
  List.Forall₂ (fun k c => Parameter.agrees k c = true) known candidate

/-- The parameters behind the fields of a definition. -/
def StructDefinition.parameters (d : StructDefinition) : List Parameter :=
  d.fields.map NamedParameter.parameter

theorem Parameter.agrees_iff {known candidate : Parameter} :
    known.agrees candidate = true ↔ known.canonicalType = candidate.canonicalType ∧
      (known.name = candidate.name ∨ known.name = "" ∨ candidate.name = "") := by
  simp [Parameter.agrees, or_assoc]

theorem Alike.refl (ps : List Parameter) : Alike ps ps :=
  List.forall₂_same.mpr fun _ _ => Parameter.agrees_iff.mpr ⟨rfl, .inl rfl⟩

theorem Alike.symm {known candidate : List Parameter} (h : Alike known candidate) :
    Alike candidate known := by
  refine List.Forall₂.flip (List.Forall₂.imp ?_ h)
  intro k c hkc
  show c.agrees k = true
  rw [Parameter.agrees_iff] at hkc ⊢
  exact ⟨hkc.1.symm, hkc.2.imp Eq.symm Or.symm⟩

/-- Where no name is missing, what agrees with the list agrees among itself. -/
theorem Alike.of_named {known other named : List Parameter} (hk : Alike known named)
    (ho : Alike other named) (hnamed : ∀ q ∈ named, q.name ≠ "") : Alike known other := by
  induction hk generalizing other with
  | nil =>
    cases ho
    exact .nil
  | @cons k q known named hkq hk ih =>
    obtain ⟨o, others, hoq, hos, rfl⟩ := List.forall₂_cons_right_iff.mp ho
    refine .cons ?_ (ih hos fun p hp => hnamed p (List.mem_cons_of_mem _ hp))
    have hq : q.name ≠ "" := hnamed q List.mem_cons_self
    rw [Parameter.agrees_iff] at hkq hoq ⊢
    refine ⟨hkq.1.trans hoq.1.symm, ?_⟩
    rcases hkq.2 with hk' | hk' | hk'
    · rcases hoq.2 with ho' | ho' | ho'
      · exact .inl (hk'.trans ho'.symm)
      · exact .inr (.inr ho')
      · exact absurd ho' hq
    · exact .inr (.inl hk')
    · exact absurd hk' hq

theorem Alike.length_eq {known candidate : List Parameter} (h : Alike known candidate) :
    known.length = candidate.length :=
  List.Forall₂.length_eq h

theorem Alike.map_canonicalType {known candidate : List Parameter} (h : Alike known candidate) :
    known.map Parameter.canonicalType = candidate.map Parameter.canonicalType := by
  induction h with
  | nil => rfl
  | cons hkc _ ih => rw [List.map_cons, List.map_cons, ih, (Parameter.agrees_iff.mp hkc).1]

theorem Alike.tupleSignature_eq {known candidate : List Parameter} (h : Alike known candidate) :
    tupleSignature known = tupleSignature candidate := by
  rw [tupleSignature, tupleSignature, canonicalTypes_eq_map, canonicalTypes_eq_map,
    h.map_canonicalType]

/-! ## Definitions -/

theorem StructDefinition.fits_iff {d : StructDefinition} {components : List Parameter} :
    d.fits components = true ↔ Alike d.parameters components := by
  rw [Alike, StructDefinition.parameters, StructDefinition.fits, List.forall₂_map_left_iff,
    List.forall₂_iff_zip, Bool.and_eq_true, beq_iff_eq, List.all_eq_true]
  refine and_congr_right fun _ => ⟨?_, ?_⟩
  · intro h k c hkc
    exact h (k, c) hkc
  · rintro h ⟨k, c⟩ hkc
    exact h hkc

@[simp] theorem StructDefinition.parameters_ofComponents (className : String)
    (structName : Option String) (components : List Parameter) :
    (StructDefinition.ofComponents className structName components).parameters = components :=
  NameScope.map_parameter_nameParameters _ _ _

@[simp] theorem StructDefinition.length_parameters (d : StructDefinition) :
    d.parameters.length = d.fields.length :=
  List.length_map _

/-! ## The declared name inside array levels -/

theorem Parameter.structName?_element (p : Parameter) : p.element.structName? = p.structName? := by
  rw [element]
  split
  · simp only [structName?]
    cases p.internalType with
    | none => rfl
    | some t => simp only [Option.map_some, Option.bind_some, TypeText.innermostOf_base]
  · rfl

theorem Parameter.structName?_innermost (p : Parameter) :
    p.innermost.structName? = p.structName? := by
  simp only [structName?, innermost]
  cases p.internalType with
  | none => rfl
  | some t =>
    simp only [Option.map_some, Option.bind_some, TypeText.innermost, String.toList_ofList,
      TypeText.innermostOf_innermostOf]

/-! ## Look-up -/

namespace StructRegistry

variable {r : StructRegistry} {p : Parameter} {d : StructDefinition}

theorem find?_eq_some (h : r.find? p = some d) :
    d ∈ r.definitions ∧ Alike d.parameters p.components := by
  rw [← StructDefinition.fits_iff]
  unfold find? at h
  split at h
  · simp only [Option.orElse_eq_orElse, Option.orElse_eq_or, Option.or_eq_some_iff] at h
    rcases h with h | ⟨-, h⟩
    · exact ⟨(List.mem_filter.mp (List.mem_of_find?_eq_some h)).1, by simpa using List.find?_some h⟩
    · exact ⟨List.mem_of_find?_eq_some h, by simpa using List.find?_some h⟩
  · simp at h

theorem isSome_find? (ht : p.isTuple = true) :
    (r.find? p).isSome = true ↔ ∃ d ∈ r.definitions, Alike d.parameters p.components := by
  constructor
  · intro h
    obtain ⟨d, hd⟩ := Option.isSome_iff_exists.mp h
    exact ⟨d, find?_eq_some hd⟩
  · rintro ⟨d, hd, hfit⟩
    have hany : (r.definitions.find? (·.fits p.components)).isSome = true :=
      List.find?_isSome.mpr ⟨d, hd, StructDefinition.fits_iff.mpr hfit⟩
    simp [find?, ht, hany]

theorem find?_eq_none (ht : p.isTuple = true) (h : r.find? p = none) (hd : d ∈ r.definitions) :
    ¬ Alike d.parameters p.components := by
  intro hfit
  have := (isSome_find? ht).mpr ⟨d, hd, hfit⟩
  simp [h] at this

/-- Only the tuple test, the declared name and the components enter the look-up. -/
theorem find?_congr {q : Parameter} (ht : q.isTuple = p.isTuple)
    (hn : q.structName? = p.structName?) (hc : q.components = p.components) :
    r.find? q = r.find? p := by
  rw [find?, find?, ht, hn, hc]

theorem find?_element (r : StructRegistry) (p : Parameter) : r.find? p.element = r.find? p :=
  find?_congr p.isTuple_element p.structName?_element p.components_element

theorem find?_innermost (r : StructRegistry) (p : Parameter) : r.find? p.innermost = r.find? p :=
  find?_congr p.isTuple_innermost p.structName?_innermost p.components_innermost

theorem find?_internalType (t : Option String)
    (hone : ∀ d ∈ r.definitions, ∀ e ∈ r.definitions, Alike d.parameters p.components →
      Alike e.parameters p.components → d = e) :
    r.find? { p with internalType := t } = r.find? p := by
  set q : Parameter := { p with internalType := t }
  have ht : q.isTuple = p.isTuple := rfl
  have hc : q.components = p.components := rfl
  cases hp : r.find? p with
  | some d =>
    have hpt : p.isTuple = true := by
      by_contra hpt
      simp [find?, hpt] at hp
    obtain ⟨hd, hfit⟩ := find?_eq_some hp
    obtain ⟨e, he⟩ := Option.isSome_iff_exists.mp
      ((isSome_find? (r := r) (ht.trans hpt)).mpr ⟨d, hd, hc ▸ hfit⟩)
    obtain ⟨hmem, hfit'⟩ := find?_eq_some he
    rw [he, hone e hmem d hd (hc ▸ hfit') hfit]
  | none =>
    by_cases hpt : p.isTuple = true
    · cases hq : r.find? q with
      | none => rfl
      | some d =>
        obtain ⟨hd, hfit⟩ := find?_eq_some hq
        exact absurd (hc ▸ hfit) (find?_eq_none hpt hp hd)
    · rw [find?, if_neg (ht ▸ hpt)]

end StructRegistry
end AbiBindings
