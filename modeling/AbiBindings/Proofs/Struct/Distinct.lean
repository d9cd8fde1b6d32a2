import AbiBindings.Proofs.Struct.Growth
import Mathlib.Data.List.Induction

/-! # Definitions stay apart

Whatever names are reserved and whatever contracts are read, in any order, the registry keeps its
definitions apart (`WellKept`): no two have one class name, and no two fit each other. Each step
keeps this (`WellKept.reserve`, `WellKept.define`), hence each run (`wellKept_run`).

A struct whose components are all named is therefore fitted by one definition at most, although
fitting is not transitive (`fitting_unique`). -/

namespace AbiBindings
namespace StructRegistry
set_option autoImplicit false

/-! ## The invariant -/

/-- What a registry keeps while it grows. -/
structure WellKept (r : StructRegistry) : Prop where
  /-- No two definitions have one class name. -/
  names_nodup : (r.definitions.map StructDefinition.className).Nodup
  /-- The class names are in use. -/
  names_taken : ∀ d ∈ r.definitions, d.className ∈ r.taken
  /-- Every definition has a component. -/
  fields_ne_nil : ∀ d ∈ r.definitions, d.fields ≠ []
  /-- No definition fits the components of another, in either direction. -/
  apart : r.definitions.Pairwise fun d e =>
    d.fits e.parameters = false ∧ e.fits d.parameters = false
  /-- The number of definitions without a declared name. -/
  anonymous_eq : r.anonymous = r.definitions.countP (·.structName.isNone)

theorem wellKept_empty : WellKept {} where
  names_nodup := List.nodup_nil
  names_taken := by simp
  fields_ne_nil := by simp
  apart := .nil
  anonymous_eq := rfl

namespace WellKept

variable {r s : StructRegistry} {p : Parameter}

theorem reserve (h : WellKept r) (name : String) : WellKept (r.reserve name) where
  names_nodup := by rw [definitions_reserve]; exact h.names_nodup
  names_taken := by
    rw [definitions_reserve]
    exact fun d hd => mem_reserve.mpr (.inl (h.names_taken d hd))
  fields_ne_nil := by rw [definitions_reserve]; exact h.fields_ne_nil
  apart := by rw [definitions_reserve]; exact h.apart
  anonymous_eq := by rw [definitions_reserve, anonymous_reserve]; exact h.anonymous_eq

/-- A definition that was lacking fits none before it and is fitted by none. -/
theorem define_apart (hp : r.lacks p = true) {d e : StructDefinition} (hd : d ∈ r.definitions)
    (he : e.parameters = p.components) :
    d.fits e.parameters = false ∧ e.fits d.parameters = false := by
  obtain ⟨ht, -, hnone⟩ := lacks_iff.mp hp
  have hfit : ¬ Alike d.parameters p.components := find?_eq_none ht hnone hd
  constructor
  · rw [Bool.eq_false_iff, ne_eq, StructDefinition.fits_iff, he]
    exact hfit
  · rw [Bool.eq_false_iff, ne_eq, StructDefinition.fits_iff, he]
    exact fun h => hfit h.symm

theorem define (h : WellKept r) (hp : r.lacks p = true) : WellKept (r.define p) where
  names_nodup := by
    rw [StructRegistry.define, List.map_append, List.nodup_append]
    refine ⟨h.names_nodup, by simp, ?_⟩
    intro a ha b hb hab
    obtain ⟨d, hd, rfl⟩ := List.mem_map.mp ha
    have hb : b = uniqueName r.taken (p.structName?.getD ("Tuple" ++ toString r.anonymous)) := by
      simpa [StructDefinition.ofComponents] using hb
    exact uniqueName_not_mem _ _ (hb ▸ hab ▸ h.names_taken d hd)
  names_taken := by
    intro d hd
    rcases List.mem_append.mp hd with hd | hd
    · exact List.mem_append_left _ (h.names_taken d hd)
    · rw [List.mem_singleton.mp hd]
      exact List.mem_append_right _ (List.mem_singleton_self _)
  fields_ne_nil := by
    intro d hd
    rcases List.mem_append.mp hd with hd | hd
    · exact h.fields_ne_nil d hd
    · rw [List.mem_singleton.mp hd, ne_eq, ← List.length_eq_zero_iff,
        ← StructDefinition.length_parameters, StructDefinition.parameters_ofComponents,
        List.length_eq_zero_iff]
      exact (lacks_iff.mp hp).2.1
  apart := by
    refine List.pairwise_append.mpr ⟨h.apart, List.pairwise_singleton _ _, ?_⟩
    intro d hd e he
    rw [List.mem_singleton.mp he]
    exact define_apart hp hd (StructDefinition.parameters_ofComponents _ _ _)
  anonymous_eq := by
    simp only [StructRegistry.define, List.countP_append, List.countP_singleton,
      StructDefinition.ofComponents, ← h.anonymous_eq]
    cases p.structName? <;> rfl

theorem of_defines {P : Parameter → Prop} (h : WellKept r)
    (hs : Relation.ReflTransGen (Defines P) r s) : WellKept s := by
  induction hs with
  | refl => exact h
  | tail _ hstep ih =>
    cases hstep with
    | intro p _ hp => exact ih.define hp

theorem eq_of_alike (h : WellKept r) {d e : StructDefinition} (hd : d ∈ r.definitions)
    (he : e ∈ r.definitions) (hfit : Alike d.parameters e.parameters) : d = e := by
  -- the pairwise part of the invariant, read once in either direction
  refine List.Pairwise.forall_of_forall_of_flip
    (R := fun d e => Alike d.parameters e.parameters → d = e) ?_ ?_ ?_ hd he hfit
  · exact fun _ _ _ => rfl
  · refine h.apart.imp fun hde hfit => ?_
    rw [← StructDefinition.fits_iff, hde.1] at hfit
    simp at hfit
  · refine h.apart.imp fun hde hfit => ?_
    rw [← StructDefinition.fits_iff, hde.2] at hfit
    simp at hfit

theorem fitting_unique (h : WellKept r) {components : List Parameter}
    (hnamed : ∀ q ∈ components, q.name ≠ "") {d e : StructDefinition} (hd : d ∈ r.definitions)
    (he : e ∈ r.definitions) (hdc : Alike d.parameters components)
    (hec : Alike e.parameters components) : d = e :=
  h.eq_of_alike hd he (hdc.of_named hec hnamed)

theorem length_fitting_le_one (h : WellKept r) {components : List Parameter}
    (hnamed : ∀ q ∈ components, q.name ≠ "") :
    (r.definitions.filter (·.fits components)).length ≤ 1 := by
  have hapart := h.apart.filter (·.fits components)
  have hfit : ∀ d ∈ r.definitions.filter (·.fits components), Alike d.parameters components :=
    fun d hd => StructDefinition.fits_iff.mp (List.mem_filter.mp hd).2
  match hl : r.definitions.filter (·.fits components) with
  | [] => simp [hl]
  | [d] => simp [hl]
  | d :: e :: rest =>
    rw [hl] at hapart hfit
    have hde : Alike d.parameters e.parameters :=
      (hfit d (by simp)).of_named (hfit e (by simp)) hnamed
    have := (List.rel_of_pairwise_cons hapart (List.mem_cons_self (a := e))).1
    rw [StructDefinition.fits_iff.mpr hde] at this
    simp at this

theorem classFor?_internalType (h : WellKept r) (hnamed : ∀ q ∈ p.components, q.name ≠ "")
    (t : Option String) : r.classFor? { p with internalType := t } = r.classFor? p := by
  rw [classFor?, classFor?, find?_internalType]
  exact fun d hd e he => h.fitting_unique hnamed hd he

end WellKept

/-! ## Runs -/

/-- A change to a registry from outside. -/
inductive Call where
  /-- A name is kept free of struct classes. -/
  | reserve (name : String)
  /-- The structs of a contract are defined. -/
  | extract (c : Contract)

/-- The registry after one call. -/
def apply (r : StructRegistry) : Call → StructRegistry
  | .reserve name => r.reserve name
  | .extract c => r.extract c

/-- The registry after a sequence of calls. -/
def run (calls : List Call) : StructRegistry :=
  calls.foldl apply {}

theorem run_concat (calls : List Call) (call : Call) :
    run (calls ++ [call]) = (run calls).apply call := by
  rw [run, List.foldl_append]
  rfl

theorem extends_foldl (calls : List Call) (r : StructRegistry) :
    Extends r (calls.foldl apply r) := by
  induction calls generalizing r with
  | nil => exact .refl r
  | cons call calls ih =>
    refine Extends.trans ?_ (ih _)
    cases call with
    | reserve name => exact extends_reserve r name
    | extract c => exact extends_extract r c

theorem extends_run_append (before after : List Call) :
    Extends (run before) (run (before ++ after)) := by
  rw [run, run, List.foldl_append]
  exact extends_foldl after _

theorem wellKept_run (calls : List Call) : WellKept (run calls) := by
  induction calls using List.reverseRecOn with
  | nil => exact wellKept_empty
  | append_singleton calls call ih =>
    rw [run, List.foldl_append]
    cases call with
    | reserve name => exact ih.reserve name
    | extract c => exact ih.of_defines (registerAll_defines_true _ _)

/-- Every definition of a run is that of a parameter's struct, under a name made free. -/
theorem of_mem_definitions_run {calls : List Call} {d : StructDefinition}
    (hd : d ∈ (run calls).definitions) :
    ∃ (p : Parameter) (taken : List String) (n : Nat), p.isTuple = true ∧
      d = .ofComponents (uniqueName taken (p.structName?.getD ("Tuple" ++ toString n)))
        p.structName? p.components := by
  induction calls using List.reverseRecOn with
  | nil => simp [run] at hd
  | append_singleton calls call ih =>
    rw [run_concat] at hd
    cases call with
    | reserve name =>
      rw [apply, definitions_reserve] at hd
      exact ih hd
    | extract c =>
      have hsteps := registerAll_defines_true
        (c.functions.flatMap structParameters ++ c.events.flatMap eventParameters) (run calls)
      rcases mem_definitions_of_defines hsteps hd with hd | ⟨p, taken, n, -, ht, hdef⟩
      · exact ih hd
      · exact ⟨p, taken, n, ht, hdef⟩

theorem mem_taken_of_reserve {calls : List Call} {name : String} (h : .reserve name ∈ calls) :
    name ∈ (run calls).taken := by
  obtain ⟨before, after, rfl⟩ := List.append_of_mem h
  rw [List.append_cons]
  refine (extends_run_append (before ++ [.reserve name]) after).1 ?_
  rw [run, List.foldl_append]
  exact mem_reserve.mpr (.inr rfl)

/-- Over every sequence of calls the definitions stay apart; each call keeps those before it in
place and puts new ones behind them, under names that were neither in use nor reserved; and a
struct whose components are all named has one class at most, whatever its declared name. -/
theorem run_keeps_definitions_apart (calls : List Call) :
    WellKept (run calls) ∧
    (∀ before after, calls = before ++ after → ∃ new : List StructDefinition,
      (run calls).definitions = (run before).definitions ++ new ∧
      ∀ d ∈ new, d.className ∉ (run before).taken ∧
        ∀ name, .reserve name ∈ before → d.className ≠ name) ∧
    ∀ p : Parameter, (∀ q ∈ p.components, q.name ≠ "") →
      ((run calls).definitions.filter (·.fits p.components)).length ≤ 1 ∧
      ∀ t, (run calls).classFor? { p with internalType := t } = (run calls).classFor? p := by
  have hkept := wellKept_run calls
  refine ⟨hkept, ?_, ?_⟩
  · rintro before after rfl
    obtain ⟨-, new, hdefs, hfree⟩ := extends_run_append before after
    refine ⟨new, hdefs, fun d hd => ⟨hfree d hd, ?_⟩⟩
    rintro name hname rfl
    exact hfree d hd (mem_taken_of_reserve hname)
  · intro p hnamed
    exact ⟨hkept.length_fitting_le_one hnamed, hkept.classFor?_internalType hnamed⟩

/-- A struct that is called like a reserved name gives way, and whoever declares the same named
components gets its class. -/
theorem class_of_key_gives_way :
    let key (declared : String) : Parameter :=
      { typeText := "tuple[]", internalType := some ("struct " ++ declared ++ "[]")
        components := [{ name := "fee", typeText := "uint24" }] }
    let vault : Contract :=
      { entries := [.event { name := "Moved", inputs := [key "Vault.Key"], anonymous := false }] }
    let calls : List Call := [.reserve "Key", .extract vault]
    (run calls).classFor? (key "Vault.Key") = some "Key1" ∧
      (run calls).classFor? (key "Pool.Lock") = some "Key1" ∧
      ((run calls).definitions.filter (·.fits (key "Pool.Lock").components)).length ≤ 1 ∧
      ∀ d ∈ (run calls).definitions, d.className ≠ "Key" := by
  intro key vault calls
  have hclass : (run calls).classFor? (key "Vault.Key") = some "Key1" := by decide +kernel
  have hnamed : ∀ q ∈ (key "Vault.Key").components, q.name ≠ "" := by simp [key]
  obtain ⟨-, hgrows, hone⟩ := run_keeps_definitions_apart calls
  obtain ⟨hlength, hsame⟩ := hone (key "Vault.Key") hnamed
  obtain ⟨new, hdefinitions, hfree⟩ := hgrows [.reserve "Key"] [.extract vault] rfl
  refine ⟨hclass, (hsame _).trans hclass, hlength, fun d hd => ?_⟩
  rw [hdefinitions] at hd
  exact (hfree d hd).2 "Key" (List.mem_singleton_self _)

end StructRegistry
end AbiBindings
