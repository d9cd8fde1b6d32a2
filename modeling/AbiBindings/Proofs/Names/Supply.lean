import AbiBindings.Proofs.Names.Distinct
import Mathlib.Data.Finset.Card

/-! # Names taken in turn

A base gets its name by a loop: the base itself is tried, and then the base with 1, 2, … behind it,
until one is free. That name is taken when the next base comes (`Supplies`). The loops end, and what
they end with is what `uniqueNames` computes (`supplies_iff`); a loop never retries more often than
there are names that are taken (`uniqueName_spec`), since the names that it tries all differ. -/

namespace AbiBindings
set_option autoImplicit false

/-- Bases get their names one after the other out of a set of names that are taken, which grows by
each name that is given. -/
inductive Supplies : Finset String → List String → List String → Finset String → Prop
  | nil {taken : Finset String} : Supplies taken [] [] taken
  | cons {taken after : Finset String} {base chosen : String} {bases names : List String}
      (search : Retry (· ∈ taken) (numbered base) 1 base chosen)
      (others : Supplies (insert chosen taken) bases names after) :
      Supplies taken (base :: bases) (chosen :: names) after

/-! ## One name -/

/-- The name given is the first of the sequence that is free, and no more of the sequence are taken
than there are taken names. -/
theorem uniqueName_spec (taken : List String) (base : String) :
    ∃ k ≤ taken.toFinset.card, uniqueName taken base = numbered base k ∧
      numbered base k ∉ taken ∧ ∀ j < k, numbered base j ∈ taken := by
  obtain ⟨k, hk, hfree, hfirst⟩ := firstFree_spec taken (numbered_injective base)
  refine ⟨k, ?_, hk, hfree, hfirst⟩
  have hmaps : Set.MapsTo (numbered base) (Finset.range k) taken.toFinset := by
    intro j hj
    exact List.mem_toFinset.mpr (hfirst j (by simpa using hj))
  have hinjective : Set.InjOn (numbered base) (Finset.range k) :=
    fun i _ j _ h => numbered_injective base i j h
  simpa using Finset.card_le_card_of_injOn (numbered base) hmaps hinjective

variable {taken : Finset String} {listed : List String}

theorem retry_uniqueName (h : ∀ name, name ∈ taken ↔ name ∈ listed) (base : String) :
    Retry (· ∈ taken) (numbered base) 1 base (uniqueName listed base) := by
  obtain ⟨k, -, hk, hfree, hfirst⟩ := uniqueName_spec listed base
  rw [hk]
  exact Retry.of_first 1 (fun i => by rw [Nat.add_comm]) (mt (h _).mp hfree)
    (fun j hj => (h _).mpr (hfirst j hj)) (Nat.zero_le k)

/-! ## Names in turn -/

theorem supplies_uniqueNames (h : ∀ name, name ∈ taken ↔ name ∈ listed) (bases : List String) :
    Supplies taken bases (uniqueNames listed bases)
      (taken ∪ (uniqueNames listed bases).toFinset) := by
  induction bases generalizing taken listed with
  | nil =>
    rw [uniqueNames, List.toFinset_nil, Finset.union_empty]
    exact .nil
  | cons base bases ih =>
    have hnext : ∀ name, name ∈ insert (uniqueName listed base) taken ↔
        name ∈ listed ++ [uniqueName listed base] := by
      intro name
      rw [Finset.mem_insert, h, List.mem_append, List.mem_singleton, or_comm]
    have hothers := ih hnext
    rw [Finset.insert_union, ← Finset.union_insert, ← List.toFinset_cons] at hothers
    rw [uniqueNames]
    exact .cons (retry_uniqueName h base) hothers

theorem Supplies.unique {bases names names' : List String} {after after' : Finset String}
    (h : Supplies taken bases names after) (h' : Supplies taken bases names' after') :
    names = names' ∧ after = after' := by
  induction h generalizing names' with
  | nil =>
    cases h'
    exact ⟨rfl, rfl⟩
  | cons search _ ih =>
    cases h' with
    | cons search' others' =>
      obtain rfl := search.unique search'
      obtain ⟨rfl, rfl⟩ := ih others'
      exact ⟨rfl, rfl⟩

theorem supplies_iff (h : ∀ name, name ∈ taken ↔ name ∈ listed) {bases names : List String}
    {after : Finset String} : Supplies taken bases names after ↔
      names = uniqueNames listed bases ∧ after = taken ∪ names.toFinset := by
  constructor
  · intro hsupplies
    obtain ⟨rfl, rfl⟩ := hsupplies.unique (supplies_uniqueNames h bases)
    exact ⟨rfl, rfl⟩
  · rintro ⟨rfl, rfl⟩
    exact supplies_uniqueNames h bases

/-- Each name is chosen as if it were the only one, with those before it among the taken names. -/
theorem getElem?_uniqueNames (listed : List String) {bases : List String} {i : Nat}
    (hi : i < bases.length) : (uniqueNames listed bases)[i]? =
      some (uniqueName (listed ++ (uniqueNames listed bases).take i) bases[i]) := by
  induction bases generalizing listed i with
  | nil => simp at hi
  | cons base bases ih =>
    cases i with
    | zero => simp [uniqueNames]
    | succ i =>
      have hrest := ih (listed ++ [uniqueName listed base]) (by simpa using hi)
      simpa [uniqueNames] using hrest

/-- Whatever names are taken, names given in turn are found by loops that end, and in one way only.
Each is the first of `base`, `base1`, `base2`, … that is free at its moment; it is taken from then
on, and no other name is. So the names are distinct, and none was taken before. -/
theorem names_in_turn_are_first_free (taken bases : List String) :
    (∀ names after, Supplies taken.toFinset bases names after ↔
      names = uniqueNames taken bases ∧ after = taken.toFinset ∪ names.toFinset) ∧
    (∀ i, ∀ hi : i < bases.length,
      let before := taken.toFinset ∪ ((uniqueNames taken bases).take i).toFinset
      ∃ k ≤ before.card, (uniqueNames taken bases)[i]? = some (numbered bases[i] k) ∧
        numbered bases[i] k ∉ before ∧ ∀ j < k, numbered bases[i] j ∈ before) ∧
    (uniqueNames taken bases).Nodup ∧ ∀ name ∈ uniqueNames taken bases, name ∉ taken := by
  refine ⟨fun names after => supplies_iff fun name => List.mem_toFinset, fun i hi => ?_,
    nodup_uniqueNames taken bases, fun name => not_mem_taken_of_mem_uniqueNames⟩
  intro before
  have hbefore : (taken ++ (uniqueNames taken bases).take i).toFinset = before :=
    List.toFinset_append
  obtain ⟨k, hk, hchosen, hfree, hfirst⟩ :=
    uniqueName_spec (taken ++ (uniqueNames taken bases).take i) bases[i]
  rw [← hbefore]
  refine ⟨k, hk, ?_, by rwa [List.mem_toFinset], fun j hj => List.mem_toFinset.mpr (hfirst j hj)⟩
  rw [getElem?_uniqueNames taken hi, hchosen]

-- a numbered name can be that of a later base, and a base can be a numbered name
example : uniqueNames ["Foo1"] ["Foo", "Foo1", "Foo", "Foo1"] =
    ["Foo", "Foo11", "Foo2", "Foo12"] := by
  decide +kernel

end AbiBindings
