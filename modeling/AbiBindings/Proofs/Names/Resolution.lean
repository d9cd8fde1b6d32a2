import AbiBindings.Names.Named
import AbiBindings.Proofs.Names.Fresh

/-! # The shape of resolved names

Resolution gives one name for each name, in order (`length_resolve`), so naming parameters changes
none of them (`map_parameter_nameParameters`). A resolved name is the given one, possibly with the
suffix of the scope and a number behind it (`mem_resolve`). What such endings do not spoil therefore
holds of all names that are made of good ones (`KeptByEndings`). -/

namespace AbiBindings
namespace NameScope
set_option autoImplicit false

variable (scope : NameScope)

theorem length_resolveAfter (used names : List String) :
    (scope.resolveAfter used names).length = names.length := by
  induction names generalizing used with
  | nil => rfl
  | cons name rest ih => rw [resolveAfter, List.length_cons, ih, List.length_cons]

@[simp] theorem length_resolve (names : List String) :
    (scope.resolve names).length = names.length :=
  scope.length_resolveAfter [] names

/-! ## One resolved name -/

theorem candidate_eq (name : String) (k : Nat) :
    scope.candidate name k = name ∨ scope.candidate name k = name ++ scope.suffix ∨
      ∃ n : Nat, scope.candidate name k = name ++ scope.suffix ++ toString n := by
  cases k with
  | zero =>
    rw [candidate, escape]
    split
    · exact .inr (.inl rfl)
    · exact .inl rfl
  | succ k => exact .inr (.inr ⟨k + 1, rfl⟩)

theorem mem_resolveAfter {used names : List String} {chosen : String}
    (h : chosen ∈ scope.resolveAfter used names) :
    ∃ name ∈ names, chosen = name ∨ chosen = name ++ scope.suffix ∨
      ∃ n : Nat, chosen = name ++ scope.suffix ++ toString n := by
  induction names generalizing used with
  | nil => simp [resolveAfter] at h
  | cons name rest ih =>
    rw [resolveAfter] at h
    rcases List.mem_cons.mp h with rfl | h
    · obtain ⟨k, hk⟩ := firstFree_mem_range used (scope.candidate name)
      rw [hk]
      exact ⟨name, List.mem_cons_self, scope.candidate_eq name k⟩
    · obtain ⟨other, hother, heq⟩ := ih h
      exact ⟨other, List.mem_cons_of_mem _ hother, heq⟩

theorem mem_resolve {names : List String} {chosen : String} (h : chosen ∈ scope.resolve names) :
    ∃ name ∈ names, chosen = name ∨ chosen = name ++ scope.suffix ∨
      ∃ n : Nat, chosen = name ++ scope.suffix ++ toString n :=
  scope.mem_resolveAfter h

/-! ## Named parameters -/

@[simp] theorem length_nameParameters (stem : String) (parameters : List Parameter) :
    (scope.nameParameters stem parameters).length = parameters.length := by
  simp [nameParameters]

@[simp] theorem map_parameter_nameParameters (stem : String) (parameters : List Parameter) :
    (scope.nameParameters stem parameters).map NamedParameter.parameter = parameters := by
  rw [nameParameters, List.map_zipWith]
  apply List.ext_getElem
  · simp
  · intro i h _
    simp

theorem parameter_getElem_nameParameters (stem : String) {parameters : List Parameter} {i : Nat}
    (h : i < (scope.nameParameters stem parameters).length) (hi : i < parameters.length) :
    (scope.nameParameters stem parameters)[i].parameter = parameters[i] := by
  simp [nameParameters]

theorem map_name_nameParameters (stem : String) (ps : List Parameter) :
    (scope.nameParameters stem ps).map NamedParameter.name =
      scope.resolve (ps.mapIdx fun i p => p.nameOr stem i) := by
  rw [nameParameters, List.map_zipWith]
  apply List.ext_getElem
  · simp
  · intro i h _
    simp

theorem parameter_mem_of_mem_nameParameters {stem : String} {parameters : List Parameter}
    {p : NamedParameter} (h : p ∈ scope.nameParameters stem parameters) :
    p.parameter ∈ parameters := by
  rw [← scope.map_parameter_nameParameters stem parameters]
  exact List.mem_map_of_mem h

end NameScope

/-! ## What names keep -/

/-- A property that a name keeps when the suffix of a scope or a number is put behind it. -/
structure KeptByEndings (P : String → Prop) : Prop where
  suffix : ∀ {name : String}, P name → ∀ scope : NameScope, P (name ++ scope.suffix)
  number : ∀ {name : String}, P name → ∀ n : Nat, P (name ++ toString n)

namespace KeptByEndings

variable {P : String → Prop}

theorem of_mem_resolve (h : KeptByEndings P) {scope : NameScope} {names : List String}
    (hnames : ∀ name ∈ names, P name) {chosen : String} (hc : chosen ∈ scope.resolve names) :
    P chosen := by
  obtain ⟨name, hname, rfl | rfl | ⟨n, rfl⟩⟩ := scope.mem_resolve hc
  · exact hnames _ hname
  · exact h.suffix (hnames name hname) scope
  · exact h.number (h.suffix (hnames name hname) scope) n

theorem of_nameOr (h : KeptByEndings P) {p : Parameter} {stem : String} (hstem : P stem)
    (hp : p.name = "" ∨ P p.name) (position : Nat) : P (p.nameOr stem position) := by
  rw [Parameter.nameOr]
  split
  · exact h.number hstem position
  · rename_i hne
    exact hp.resolve_left hne

theorem of_mem_nameParameters (h : KeptByEndings P) {scope : NameScope} {stem : String}
    {ps : List Parameter} (hps : ∀ p ∈ ps, ∀ position, P (p.nameOr stem position))
    {p : NamedParameter} (hp : p ∈ scope.nameParameters stem ps) : P p.name := by
  have hname := List.mem_map_of_mem (f := NamedParameter.name) hp
  rw [scope.map_name_nameParameters] at hname
  refine h.of_mem_resolve (fun name hname => ?_) hname
  obtain ⟨i, hi, rfl⟩ := List.mem_mapIdx.mp hname
  exact hps _ (List.getElem_mem hi) i

theorem of_uniqueName (h : KeptByEndings P) {base : String} (hbase : P base)
    (taken : List String) : P (uniqueName taken base) := by
  rcases uniqueName_eq taken base with heq | ⟨k, heq⟩
  · rw [heq]
    exact hbase
  · rw [heq]
    exact h.number hbase k

theorem of_mem_uniqueNames (h : KeptByEndings P) {taken bases : List String}
    (hbases : ∀ base ∈ bases, P base) {chosen : String} (hc : chosen ∈ uniqueNames taken bases) :
    P chosen := by
  obtain ⟨base, hbase, rfl | ⟨k, rfl⟩⟩ := AbiBindings.of_mem_uniqueNames hc
  · exact hbases _ hbase
  · exact h.number (hbases base hbase) k

end KeptByEndings
end AbiBindings
