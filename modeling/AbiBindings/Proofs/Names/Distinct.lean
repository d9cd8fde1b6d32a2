import AbiBindings.Proofs.Names.Conflicts
import AbiBindings.Proofs.Names.Resolution
import Mathlib.Data.List.Basic

/-! # Resolved names are distinct and free of conflicts

A name is chosen by two loops: one tries suffixes until nothing conflicts, one tries numbers until
the name is not in use (`Retry`, `Resolves`). Both end, the first after one suffix at most and the
second because a list of used names cannot hold every numbered one; what they end with is what
resolution computes (`resolves_iff`).

A name is kept exactly when it neither conflicts nor repeats an earlier result
(`getElem_resolveAfter_eq_iff`). So resolving a second time changes nothing. -/

namespace AbiBindings
set_option autoImplicit false

/-! ## Retry loops -/

/-- A busy name gives way to the next of the retries, counted from `k`, until one is free. -/
inductive Retry (busy : String → Prop) (retry : Nat → String) : Nat → String → String → Prop
  | free {k : Nat} {name : String} (h : ¬ busy name) : Retry busy retry k name name
  | again {k : Nat} {name result : String} (h : busy name)
      (next : Retry busy retry (k + 1) (retry k) result) : Retry busy retry k name result

namespace Retry

variable {busy : String → Prop} {retry : Nat → String}

theorem unique {k : Nat} {name r s : String} (hr : Retry busy retry k name r)
    (hs : Retry busy retry k name s) : r = s := by
  induction hr with
  | free h =>
    cases hs with
    | free _ => rfl
    | again h' _ => exact absurd h' h
  | again h _ ih =>
    cases hs with
    | free h' => exact absurd h h'
    | again _ next => exact ih next

/-- A loop through a sequence of names ends with the first of them that is free. -/
theorem of_first {names : Nat → String} (start : Nat)
    (hretry : ∀ i, names (i + 1) = retry (start + i)) {n : Nat} (hfree : ¬ busy (names n))
    (hbusy : ∀ j < n, busy (names j)) {i : Nat} (hi : i ≤ n) :
    Retry busy retry (start + i) (names i) (names n) := by
  induction hd : n - i generalizing i with
  | zero =>
    have hin : i = n := by omega
    subst hin
    exact .free hfree
  | succ d ih =>
    have hlt : i < n := by omega
    have hnext := ih (i := i + 1) hlt (by omega)
    rw [hretry i, ← Nat.add_assoc] at hnext
    exact .again (hbusy i hlt) hnext

end Retry

namespace NameScope

variable (scope : NameScope)

/-- The two loops for every name of a list in turn: the first retries a name that conflicts with
the suffix and then with numbers behind it, the second retries one in use with numbers only. -/
inductive Resolves : List String → List String → List String → Prop
  | nil {used : List String} : Resolves used [] []
  | cons {used rest results : List String} {name escaped chosen : String}
      (escape : Retry (scope.conflicts · = true) (numbered (name ++ scope.suffix)) 0 name escaped)
      (choose : Retry (· ∈ used) (numbered (name ++ scope.suffix)) 1 escaped chosen)
      (others : Resolves (used ++ [chosen]) rest results) :
      Resolves used (name :: rest) (chosen :: results)

/-! ## One name -/

theorem candidate_succ (name : String) (k : Nat) :
    scope.candidate name (k + 1) = numbered (name ++ scope.suffix) (k + 1) :=
  rfl

theorem candidate_injective (name : String) :
    ∀ i j, scope.candidate name i = scope.candidate name j → i = j := by
  have hnumbered := numbered_injective (name ++ scope.suffix)
  -- the escaped name is the name or the name with the suffix, and neither has a number behind it
  have hzero : ∀ k, scope.escape name ≠ numbered (name ++ scope.suffix) (k + 1) := by
    intro k h
    rw [escape] at h
    split at h
    · have hk : 0 = k + 1 := hnumbered 0 (k + 1) h
      omega
    · have hlen := congrArg String.length h
      have hsuffix : 0 < scope.suffix.length := by cases scope <;> decide
      simp only [numbered, String.length_append] at hlen
      omega
  intro i j h
  cases i with
  | zero =>
    cases j with
    | zero => rfl
    | succ j => exact absurd h (hzero j)
  | succ i =>
    cases j with
    | zero => exact absurd h.symm (hzero i)
    | succ j => exact hnumbered _ _ h

theorem chosen_not_mem (used : List String) (name : String) :
    firstFree used (scope.candidate name) ∉ used :=
  firstFree_not_mem used (scope.candidate_injective name)

theorem conflicts_chosen (used : List String) (name : String) :
    scope.conflicts (firstFree used (scope.candidate name)) = false := by
  obtain ⟨k, hk⟩ := firstFree_mem_range used (scope.candidate name)
  rw [hk]
  exact scope.conflicts_candidate name k

theorem chosen_eq_iff {used : List String} {name : String} :
    firstFree used (scope.candidate name) = name ↔
      scope.conflicts name = false ∧ name ∉ used := by
  constructor
  · intro h
    have hconflict := scope.conflicts_chosen used name
    have hused := scope.chosen_not_mem used name
    rw [h] at hconflict hused
    exact ⟨hconflict, hused⟩
  · rintro ⟨hconflict, hused⟩
    have hescape : scope.candidate name 0 = name := by simp [candidate, escape, hconflict]
    obtain ⟨k, hk, -, hfirst⟩ := firstFree_spec used (scope.candidate_injective name)
    rw [hk]
    cases k with
    | zero => exact hescape
    | succ k =>
      have h0 := hfirst 0 (Nat.succ_pos k)
      rw [hescape] at h0
      exact absurd h0 hused

/-! ## The loops end -/

theorem retry_escape (name : String) :
    Retry (scope.conflicts · = true) (numbered (name ++ scope.suffix)) 0 name
      (scope.escape name) := by
  have hfree : ¬ scope.conflicts (scope.escape name) = true := by
    simp [scope.conflicts_escape name]
  by_cases h : scope.conflicts name = true
  · rw [escape, if_pos h] at hfree ⊢
    exact .again h (.free hfree)
  · rw [escape, if_neg h]
    exact .free h

theorem retry_chosen (used : List String) (name : String) :
    Retry (· ∈ used) (numbered (name ++ scope.suffix)) 1 (scope.escape name)
      (firstFree used (scope.candidate name)) := by
  obtain ⟨k, hk, hfree, hfirst⟩ := firstFree_spec used (scope.candidate_injective name)
  rw [hk]
  exact Retry.of_first 1 (fun i => by rw [candidate_succ, Nat.add_comm]) hfree hfirst
    (Nat.zero_le k)

theorem resolves_resolveAfter (used names : List String) :
    scope.Resolves used names (scope.resolveAfter used names) := by
  induction names generalizing used with
  | nil => exact .nil
  | cons name rest ih =>
    rw [resolveAfter]
    exact .cons (scope.retry_escape name) (scope.retry_chosen used name) (ih _)

theorem resolves_iff {used names results : List String} :
    scope.Resolves used names results ↔ results = scope.resolveAfter used names := by
  constructor
  · intro h
    induction h with
    | nil => rfl
    | @cons used rest results name escaped chosen hescape hchoose _ ih =>
      have heq : escaped = scope.escape name := hescape.unique (scope.retry_escape name)
      subst heq
      rw [resolveAfter, ← hchoose.unique (scope.retry_chosen used name), ih]
  · rintro rfl
    exact scope.resolves_resolveAfter used names

/-! ## Lists of names -/

theorem not_mem_used_of_mem_resolveAfter {used names : List String} {chosen : String}
    (h : chosen ∈ scope.resolveAfter used names) : chosen ∉ used := by
  induction names generalizing used with
  | nil => simp [resolveAfter] at h
  | cons name rest ih =>
    rw [resolveAfter] at h
    rcases List.mem_cons.mp h with rfl | h
    · exact scope.chosen_not_mem used name
    · exact fun hused => ih h (List.mem_append_left _ hused)

theorem nodup_resolveAfter (used names : List String) :
    (scope.resolveAfter used names).Nodup := by
  induction names generalizing used with
  | nil => exact List.nodup_nil
  | cons name rest ih =>
    rw [resolveAfter]
    refine List.nodup_cons.mpr ⟨fun hmem => ?_, ih _⟩
    have hfree := scope.not_mem_used_of_mem_resolveAfter hmem
    exact hfree (List.mem_append_right _ (List.mem_singleton_self _))

theorem conflicts_of_mem_resolveAfter {used names : List String} {chosen : String}
    (h : chosen ∈ scope.resolveAfter used names) : scope.conflicts chosen = false := by
  induction names generalizing used with
  | nil => simp [resolveAfter] at h
  | cons name rest ih =>
    rw [resolveAfter] at h
    rcases List.mem_cons.mp h with rfl | h
    · exact scope.conflicts_chosen used name
    · exact ih h

theorem resolveAfter_append (used names more : List String) :
    scope.resolveAfter used (names ++ more) =
      scope.resolveAfter used names
        ++ scope.resolveAfter (used ++ scope.resolveAfter used names) more := by
  induction names generalizing used with
  | nil => simp [resolveAfter]
  | cons name rest ih =>
    have hrest := ih (used ++ [firstFree used (scope.candidate name)])
    simp only [resolveAfter, List.cons_append, List.append_assoc, List.nil_append] at hrest ⊢
    rw [hrest]

/-- A name is kept exactly when it does not conflict and no earlier result is the same. -/
theorem getElem_resolveAfter_eq_iff (used names : List String) {i : Nat} (hi : i < names.length)
    (hr : i < (scope.resolveAfter used names).length) :
    (scope.resolveAfter used names)[i] = names[i] ↔
      scope.conflicts names[i] = false ∧
        names[i] ∉ used ++ (scope.resolveAfter used names).take i := by
  induction names generalizing used i with
  | nil => simp at hi
  | cons name rest ih =>
    cases i with
    | zero => simpa [resolveAfter] using scope.chosen_eq_iff
    | succ i =>
      have hrest := ih (used ++ [firstFree used (scope.candidate name)]) (by simpa using hi)
        (by simpa [resolveAfter] using hr)
      simpa [resolveAfter] using hrest

/-- Names that are free of conflicts, of repetitions and of names in use are left alone. -/
theorem resolveAfter_eq_self {used names : List String}
    (hconflicts : ∀ n ∈ names, scope.conflicts n = false) (hnodup : names.Nodup)
    (hused : ∀ n ∈ names, n ∉ used) : scope.resolveAfter used names = names := by
  induction names generalizing used with
  | nil => rfl
  | cons name rest ih =>
    obtain ⟨hname, hrest⟩ := List.nodup_cons.mp hnodup
    have hchosen : firstFree used (scope.candidate name) = name :=
      scope.chosen_eq_iff.mpr
        ⟨hconflicts name List.mem_cons_self, hused name List.mem_cons_self⟩
    rw [resolveAfter, hchosen]
    congr 1
    refine ih (fun n hn => hconflicts n (List.mem_cons_of_mem _ hn)) hrest fun n hn hmem => ?_
    rcases List.mem_append.mp hmem with hmem | hmem
    · exact hused n (List.mem_cons_of_mem _ hn) hmem
    · exact hname (List.mem_singleton.mp hmem ▸ hn)

theorem nodup_resolve (names : List String) : (scope.resolve names).Nodup :=
  scope.nodup_resolveAfter [] names

theorem conflicts_of_mem_resolve {names : List String} {chosen : String}
    (h : chosen ∈ scope.resolve names) : scope.conflicts chosen = false :=
  scope.conflicts_of_mem_resolveAfter h

theorem not_mem_reserved_of_mem_resolve {names : List String} {chosen : String}
    (h : chosen ∈ scope.resolve names) : chosen ∉ scope.reserved := by
  have hfree := scope.conflicts_of_mem_resolve h
  intro hreserved
  rw [scope.conflicts_iff.mpr (.inl hreserved)] at hfree
  exact absurd hfree (by decide)

theorem isNestedParameter_of_mem_resolve {names : List String} {chosen : String}
    (h : chosen ∈ scope.resolve names) : isNestedParameter chosen = false := by
  have hfree := scope.conflicts_of_mem_resolve h
  rw [Bool.eq_false_iff] at hfree ⊢
  exact fun hnested => hfree (scope.conflicts_iff.mpr (.inr (.inr hnested)))

theorem resolve_prefix (names more : List String) :
    scope.resolve names <+: scope.resolve (names ++ more) := by
  rw [resolve, resolve, resolveAfter_append]
  exact List.prefix_append _ _

theorem resolve_resolve (names : List String) :
    scope.resolve (scope.resolve names) = scope.resolve names :=
  scope.resolveAfter_eq_self (fun _ hn => scope.conflicts_of_mem_resolve hn)
    (scope.nodup_resolve names) fun _ _ => List.not_mem_nil

end NameScope

/-! ## Parameters -/

/-- The parameter under the name that it was given. -/
def NamedParameter.renamed (p : NamedParameter) : Parameter :=
  { p.parameter with name := p.name }

theorem Parameter.nameOr_ne_empty (p : Parameter) (stem : String) (position : Nat) :
    p.nameOr stem position ≠ "" := by
  unfold Parameter.nameOr
  split
  · simp
  · assumption

namespace NameScope

variable (scope : NameScope)

theorem name_ne_empty_of_mem_nameParameters {stem : String} {ps : List Parameter}
    {p : NamedParameter} (hp : p ∈ scope.nameParameters stem ps) : p.name ≠ "" := by
  have hkept : KeptByEndings (· ≠ "") := ⟨fun hne _ => by simp [hne], fun _ _ => by simp⟩
  exact hkept.of_mem_nameParameters (fun q _ i => q.nameOr_ne_empty stem i) hp

theorem nameParameters_prefix (stem : String) (ps more : List Parameter) :
    scope.nameParameters stem ps <+: scope.nameParameters stem (ps ++ more) := by
  obtain ⟨rest, hrest⟩ := scope.resolve_prefix (ps.mapIdx fun i p => p.nameOr stem i)
    (more.mapIdx fun i p => p.nameOr stem (i + ps.length))
  have hlen : (scope.resolve (ps.mapIdx fun i p => p.nameOr stem i)).length = ps.length := by simp
  rw [nameParameters, nameParameters, List.mapIdx_append, ← hrest, List.zipWith_append hlen]
  exact List.prefix_append _ _

theorem map_name_nameParameters_renamed (stem : String) (ps : List Parameter) :
    (scope.nameParameters stem ((scope.nameParameters stem ps).map NamedParameter.renamed)).map
      NamedParameter.name = (scope.nameParameters stem ps).map NamedParameter.name := by
  have hkept : ((scope.nameParameters stem ps).map NamedParameter.renamed).mapIdx
      (fun i p => p.nameOr stem i) = (scope.nameParameters stem ps).map NamedParameter.name := by
    apply List.ext_getElem
    · simp
    · intro i h _
      have hmem := List.getElem_mem (l := scope.nameParameters stem ps) (by simpa using h)
      have hne := scope.name_ne_empty_of_mem_nameParameters hmem
      simp [Parameter.nameOr, NamedParameter.renamed, hne]
  rw [map_name_nameParameters, hkept, map_name_nameParameters, resolve_resolve]

/-! ## The statement -/

/-- Resolution comes to an end for every list of names, with one result: as many names and in
their order, none of them twice and none that conflicts. A name stays as it is exactly when it does
not conflict and is none of the results before it; the results for the first names do not depend
on the others; and results are resolved to themselves. All of this passes to parameters, for which
a missing name is the stem and the position. -/
theorem resolved_names_are_apart (scope : NameScope) :
    (∀ names : List String,
      (∀ results, scope.Resolves [] names results ↔ results = scope.resolve names) ∧
      (scope.resolve names).length = names.length ∧
      (scope.resolve names).Nodup ∧
      (∀ n ∈ scope.resolve names, scope.conflicts n = false) ∧
      (∀ i : Fin names.length, (scope.resolve names)[i]? = some names[i] ↔
        scope.conflicts names[i] = false ∧ names[i] ∉ (scope.resolve names).take i) ∧
      (∀ more, scope.resolve names <+: scope.resolve (names ++ more)) ∧
      scope.resolve (scope.resolve names) = scope.resolve names) ∧
    ∀ (stem : String) (ps : List Parameter),
      (scope.nameParameters stem ps).map NamedParameter.parameter = ps ∧
      (scope.nameParameters stem ps).map NamedParameter.name =
        scope.resolve (ps.mapIdx fun i p => if p.name = "" then stem ++ toString i else p.name) ∧
      (∀ more, scope.nameParameters stem ps <+: scope.nameParameters stem (ps ++ more)) ∧
      (scope.nameParameters stem ((scope.nameParameters stem ps).map NamedParameter.renamed)).map
        NamedParameter.name = (scope.nameParameters stem ps).map NamedParameter.name := by
  refine ⟨fun names => ⟨fun results => scope.resolves_iff, scope.length_resolve names,
    scope.nodup_resolve names, fun n hn => scope.conflicts_of_mem_resolve hn, fun i => ?_,
    scope.resolve_prefix names, scope.resolve_resolve names⟩, fun stem ps =>
    ⟨scope.map_parameter_nameParameters stem ps, scope.map_name_nameParameters stem ps,
      scope.nameParameters_prefix stem ps, scope.map_name_nameParameters_renamed stem ps⟩⟩
  have hr : i.val < (scope.resolve names).length := by simp
  have hkept := scope.getElem_resolveAfter_eq_iff [] names i.isLt hr
  rw [List.nil_append] at hkept
  rw [Fin.getElem?_fin, List.getElem?_eq_getElem hr, Option.some_inj]
  exact hkept

/-- An input that is called like the number of an earlier one gives way in turn. -/
theorem resolved_names_of_payment :
    let names := ["amount", "response", "amount", "amount_param1", "item0", "response_param"]
    let results := NameScope.parameter.resolve names
    results = ["amount", "response_param", "amount_param1", "amount_param1_param1", "item0_param",
        "response_param_param1"] ∧
      results.Nodup ∧ NameScope.parameter.resolve results = results := by
  intro names results
  obtain ⟨-, -, hnodup, -, -, -, hagain⟩ := (resolved_names_are_apart .parameter).1 names
  exact ⟨by decide +kernel, hnodup, hagain⟩

end NameScope
end AbiBindings
