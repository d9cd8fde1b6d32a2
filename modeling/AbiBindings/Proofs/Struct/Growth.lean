import AbiBindings.Proofs.Struct.Fitting
import Mathlib.Logic.Relation

/-! # How a registry grows

Registration does one thing, any number of times: it defines a struct that has components and that
no definition fits (`Defines`, `register_defines`); a property that passes from a parameter to its
components (`Hereditary`) holds wherever that happens. A registry that grew so keeps its
definitions in place and puts the new ones behind them, under names that were not taken
(`Extends`). Look-ups that had an answer keep having one (`Resolves.mono`). -/

namespace AbiBindings
namespace StructRegistry
set_option autoImplicit false

/-! ## Registration, one definition at a time -/

/-- A property that the components of a parameter have whenever the parameter has it. -/
def Hereditary (P : Parameter → Prop) : Prop :=
  ∀ p, P p → ∀ q ∈ p.components, P q

/-- The struct of a parameter with the property is defined because it lacks a definition. -/
inductive Defines (P : Parameter → Prop) : StructRegistry → StructRegistry → Prop where
  | intro (r : StructRegistry) (p : Parameter) (hp : P p) (h : r.lacks p = true) :
      Defines P r (r.define p)

theorem lacks_iff {r : StructRegistry} {p : Parameter} :
    r.lacks p = true ↔ p.isTuple = true ∧ p.components ≠ [] ∧ r.find? p = none := by
  simp [lacks, and_assoc]

theorem register_of_lacks {r : StructRegistry} {p : Parameter} (h : r.lacks p = true) :
    r.register p = (r.define p).registerAll p.components := by
  cases p
  rw [register]
  exact if_pos h

theorem register_of_not_lacks {r : StructRegistry} {p : Parameter} (h : r.lacks p ≠ true) :
    r.register p = r := by
  cases p
  rw [register]
  exact if_neg h

theorem registerAll_append (r : StructRegistry) (ps qs : List Parameter) :
    r.registerAll (ps ++ qs) = (r.registerAll ps).registerAll qs := by
  induction ps generalizing r with
  | nil => rw [List.nil_append, registerAll]
  | cons p ps ih => rw [List.cons_append, registerAll, registerAll, ih]

theorem registerAll_defines_of {P : Parameter → Prop} (ps : List Parameter)
    (h : ∀ p ∈ ps, ∀ r : StructRegistry, Relation.ReflTransGen (Defines P) r (r.register p))
    (r : StructRegistry) : Relation.ReflTransGen (Defines P) r (r.registerAll ps) := by
  induction ps generalizing r with
  | nil => exact .refl
  | cons p ps ih =>
    rw [registerAll]
    exact (h p List.mem_cons_self r).trans (ih (fun q hq => h q (List.mem_cons_of_mem _ hq)) _)

theorem register_defines {P : Parameter → Prop} (hP : Hereditary P) (p : Parameter) (hp : P p)
    (r : StructRegistry) : Relation.ReflTransGen (Defines P) r (r.register p) := by
  induction p using Parameter.induction generalizing r with
  | step p ih =>
    by_cases h : r.lacks p = true
    · -- the struct comes first, and its components have the property too
      rw [register_of_lacks h]
      refine .head (.intro r p hp h) (registerAll_defines_of p.components ?_ _)
      exact fun q hq => ih q hq (hP p hp q hq)
    · rw [register_of_not_lacks h]

theorem registerAll_defines {P : Parameter → Prop} (hP : Hereditary P) {ps : List Parameter}
    (hps : ∀ p ∈ ps, P p) (r : StructRegistry) :
    Relation.ReflTransGen (Defines P) r (r.registerAll ps) :=
  registerAll_defines_of ps (fun p hp => register_defines hP p (hps p hp)) r

theorem registerAll_defines_true (ps : List Parameter) (r : StructRegistry) :
    Relation.ReflTransGen (Defines fun _ => True) r (r.registerAll ps) :=
  registerAll_defines (fun _ _ _ _ => trivial) (fun _ _ => trivial) r

theorem mem_definitions_of_defines {P : Parameter → Prop} {r s : StructRegistry}
    (h : Relation.ReflTransGen (Defines P) r s) {d : StructDefinition} (hd : d ∈ s.definitions) :
    d ∈ r.definitions ∨ ∃ (p : Parameter) (taken : List String) (n : Nat),
      P p ∧ p.isTuple = true ∧
      d = .ofComponents (uniqueName taken (p.structName?.getD ("Tuple" ++ toString n)))
        p.structName? p.components := by
  induction h with
  | refl => exact .inl hd
  | tail _ hstep ih =>
    cases hstep with
    | intro p hp hlacks =>
      rcases List.mem_append.mp hd with hd | hd
      · exact ih hd
      · exact .inr ⟨p, _, _, hp, (lacks_iff.mp hlacks).1, List.mem_singleton.mp hd⟩

/-! ## Extension -/

/-- The later registry has the earlier definitions first, then new ones whose names were free, and
every name that was taken is taken still. -/
def Extends (r s : StructRegistry) : Prop :=
  r.taken ⊆ s.taken ∧ ∃ new : List StructDefinition, s.definitions = r.definitions ++ new ∧
    ∀ d ∈ new, d.className ∉ r.taken

namespace Extends

theorem refl (r : StructRegistry) : Extends r r :=
  ⟨List.Subset.refl _, [], by simp, by simp⟩

theorem trans {r s t : StructRegistry} (hrs : Extends r s) (hst : Extends s t) : Extends r t := by
  obtain ⟨htaken, new, hdefs, hfree⟩ := hrs
  obtain ⟨htaken', new', hdefs', hfree'⟩ := hst
  refine ⟨List.Subset.trans htaken htaken', new ++ new', ?_, ?_⟩
  · rw [hdefs', hdefs, List.append_assoc]
  · intro d hd
    rcases List.mem_append.mp hd with hd | hd
    · exact hfree d hd
    · exact fun h => hfree' d hd (htaken h)

theorem definitions_subset {r s : StructRegistry} (h : Extends r s) :
    r.definitions ⊆ s.definitions := by
  obtain ⟨-, new, hdefs, -⟩ := h
  rw [hdefs]
  exact List.subset_append_left _ _

end Extends

theorem mem_reserve {r : StructRegistry} {name other : String} :
    other ∈ (r.reserve name).taken ↔ other ∈ r.taken ∨ other = name := by
  rw [reserve]
  split
  · rename_i h
    have hname : name ∈ r.taken := by simpa using h
    constructor
    · exact .inl
    · rintro (h | rfl)
      · exact h
      · exact hname
  · simp

@[simp] theorem definitions_reserve (r : StructRegistry) (name : String) :
    (r.reserve name).definitions = r.definitions := by
  rw [reserve]
  split <;> rfl

@[simp] theorem anonymous_reserve (r : StructRegistry) (name : String) :
    (r.reserve name).anonymous = r.anonymous := by
  rw [reserve]
  split <;> rfl

theorem extends_reserve (r : StructRegistry) (name : String) : Extends r (r.reserve name) :=
  ⟨fun _ h => mem_reserve.mpr (.inl h), [], by simp, by simp⟩

theorem extends_define (r : StructRegistry) (p : Parameter) : Extends r (r.define p) := by
  refine ⟨List.subset_append_left _ _, _, rfl, ?_⟩
  intro d hd
  rw [List.mem_singleton.mp hd]
  exact uniqueName_not_mem _ _

theorem Extends.of_defines {P : Parameter → Prop} {r s : StructRegistry}
    (h : Relation.ReflTransGen (Defines P) r s) : Extends r s := by
  induction h with
  | refl => exact .refl r
  | tail _ hstep ih =>
    cases hstep with
    | intro p _ _ => exact ih.trans (extends_define _ p)

theorem extends_registerAll (r : StructRegistry) (ps : List Parameter) :
    Extends r (r.registerAll ps) :=
  .of_defines (registerAll_defines_true ps r)

theorem extends_extract (r : StructRegistry) (c : Contract) : Extends r (r.extract c) :=
  extends_registerAll _ _

/-! ## Parameters with a definition -/

/-- A parameter that holds a struct with components has a definition that fits. -/
def Resolves (r : StructRegistry) (p : Parameter) : Prop :=
  p.isTuple = true → p.components ≠ [] → ∃ d, r.find? p = some d

theorem Resolves.mono {r s : StructRegistry} {p : Parameter} (h : r.Resolves p)
    (hrs : Extends r s) : s.Resolves p := by
  intro ht hc
  obtain ⟨d, hd⟩ := h ht hc
  obtain ⟨hmem, hfit⟩ := find?_eq_some hd
  exact Option.isSome_iff_exists.mp
    ((isSome_find? ht).mpr ⟨d, hrs.definitions_subset hmem, hfit⟩)

theorem resolves_of_not_lacks {r : StructRegistry} {p : Parameter} (h : r.lacks p ≠ true) :
    r.Resolves p := by
  intro ht hc
  by_contra hn
  exact h (lacks_iff.mpr ⟨ht, hc, Option.eq_none_iff_forall_ne_some.mpr fun d hd => hn ⟨d, hd⟩⟩)

theorem resolves_define {r : StructRegistry} (p : Parameter) : (r.define p).Resolves p := by
  intro ht _
  rw [← Option.isSome_iff_exists, isSome_find? ht]
  refine ⟨_, List.mem_append_right _ (List.mem_singleton_self _), ?_⟩
  rw [StructDefinition.parameters_ofComponents]
  exact .refl _

end StructRegistry
end AbiBindings
