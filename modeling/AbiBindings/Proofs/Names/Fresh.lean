import AbiBindings.Names.Fresh
import Std.Data.String.ToNat

/-! # Free names are free

The search for a free candidate ends within its bound: a list of `n` taken names cannot hold
`n + 1` different candidates (`firstFree_not_mem`). The numbered candidates do differ, since a
decimal text determines its number (`numbered_injective`). Hence the names that a list of bases
gets in turn are distinct and new (`nodup_uniqueNames`, `not_mem_taken_of_mem_uniqueNames`). -/

namespace AbiBindings
set_option autoImplicit false

/-! ## The bounded search -/

/-- Among different candidates, one more than there are taken names, one is not taken. -/
theorem exists_free (taken : List String) {candidate : Nat → String}
    (h : ∀ i j, candidate i = candidate j → i = j) :
    ∃ k ∈ List.range (taken.length + 1), candidate k ∉ taken := by
  apply Classical.byContradiction
  intro hn
  have hsub : (List.range (taken.length + 1)).map candidate ⊆ taken := by
    intro name hname
    obtain ⟨k, hk, rfl⟩ := List.mem_map.mp hname
    apply Classical.byContradiction
    intro hfree
    exact hn ⟨k, hk, hfree⟩
  have hnodup : ((List.range (taken.length + 1)).map candidate).Nodup := by
    rw [List.Nodup, List.pairwise_map]
    exact List.nodup_range.imp fun hne he => hne (h _ _ he)
  have hle := List.Nodup.length_le_of_subset hnodup hsub
  rw [List.length_map, List.length_range] at hle
  omega

theorem firstFree_spec (taken : List String) {candidate : Nat → String}
    (h : ∀ i j, candidate i = candidate j → i = j) :
    ∃ k, firstFree taken candidate = candidate k ∧ candidate k ∉ taken ∧
      ∀ j < k, candidate j ∈ taken := by
  obtain ⟨n, hn, hfree⟩ := exists_free taken h
  cases hf : (List.range (taken.length + 1)).find? fun k => !taken.contains (candidate k) with
  | none =>
    rw [List.find?_eq_none] at hf
    exact absurd (by simpa using hf n hn) hfree
  | some k =>
    refine ⟨k, by rw [firstFree, hf, Option.getD_some], by simpa using List.find?_some hf, ?_⟩
    intro j hj
    rw [List.find?_range_eq_some] at hf
    simpa using hf.2.2 j hj

theorem firstFree_not_mem (taken : List String) {candidate : Nat → String}
    (h : ∀ i j, candidate i = candidate j → i = j) : firstFree taken candidate ∉ taken := by
  obtain ⟨k, hk, hfree, -⟩ := firstFree_spec taken h
  rw [hk]
  exact hfree

theorem firstFree_mem_range (taken : List String) (candidate : Nat → String) :
    ∃ k, firstFree taken candidate = candidate k :=
  ⟨_, rfl⟩

/-! ## Numbered names -/

theorem isDigit_of_mem_toString {n : Nat} {c : Char} (h : c ∈ (toString n).toList) :
    c.isDigit = true := by
  rw [Nat.toString_eq_repr, Nat.toList_repr] at h
  exact Nat.isDigit_of_mem_toDigits (by decide) (by decide) h

theorem append_toString_inj {stem : String} {m n : Nat}
    (h : stem ++ toString m = stem ++ toString n) : m = n := by
  rw [String.append_right_inj, Nat.toString_eq_repr, Nat.toString_eq_repr] at h
  exact Nat.repr_injective h

theorem numbered_injective (base : String) :
    ∀ i j, numbered base i = numbered base j → i = j
  | 0, 0, _ => rfl
  | 0, j + 1, h => by
      have := String.append_eq_left_iff.mp h.symm
      simp at this
  | i + 1, 0, h => by
      have := String.append_eq_left_iff.mp h
      simp at this
  | i + 1, j + 1, h => append_toString_inj h

theorem uniqueName_not_mem (taken : List String) (base : String) : uniqueName taken base ∉ taken :=
  firstFree_not_mem taken (numbered_injective base)

theorem uniqueName_of_not_mem {taken : List String} {base : String} (h : base ∉ taken) :
    uniqueName taken base = base := by
  obtain ⟨k, hk, -, hfirst⟩ := firstFree_spec taken (numbered_injective base)
  cases k with
  | zero => exact hk
  | succ k => exact absurd (hfirst 0 k.succ_pos) h

theorem uniqueName_eq (taken : List String) (base : String) :
    uniqueName taken base = base ∨ ∃ k : Nat, uniqueName taken base = base ++ toString k := by
  obtain ⟨k, hk⟩ := firstFree_mem_range taken (numbered base)
  rw [uniqueName, hk]
  cases k with
  | zero => exact .inl rfl
  | succ k => exact .inr ⟨k + 1, rfl⟩

/-! ## Lists of free names -/

@[simp] theorem length_uniqueNames (taken bases : List String) :
    (uniqueNames taken bases).length = bases.length := by
  induction bases generalizing taken with
  | nil => rfl
  | cons base rest ih => rw [uniqueNames, List.length_cons, ih, List.length_cons]

theorem not_mem_taken_of_mem_uniqueNames {taken bases : List String} {chosen : String}
    (h : chosen ∈ uniqueNames taken bases) : chosen ∉ taken := by
  induction bases generalizing taken with
  | nil => simp [uniqueNames] at h
  | cons base rest ih =>
    rw [uniqueNames] at h
    rcases List.mem_cons.mp h with rfl | h
    · exact uniqueName_not_mem taken base
    · exact fun hmem => ih h (List.mem_append_left _ hmem)

theorem nodup_uniqueNames (taken bases : List String) : (uniqueNames taken bases).Nodup := by
  induction bases generalizing taken with
  | nil => exact List.nodup_nil
  | cons base rest ih =>
    rw [uniqueNames]
    refine List.nodup_cons.mpr ⟨fun hmem => ?_, ih _⟩
    have hfree := not_mem_taken_of_mem_uniqueNames hmem
    exact hfree (List.mem_append_right _ (List.mem_singleton_self _))

theorem of_mem_uniqueNames {taken bases : List String} {chosen : String}
    (h : chosen ∈ uniqueNames taken bases) :
    ∃ base ∈ bases, chosen = base ∨ ∃ k : Nat, chosen = base ++ toString k := by
  induction bases generalizing taken with
  | nil => simp [uniqueNames] at h
  | cons base rest ih =>
    rw [uniqueNames] at h
    rcases List.mem_cons.mp h with rfl | h
    · exact ⟨base, List.mem_cons_self, uniqueName_eq taken base⟩
    · obtain ⟨other, hother, heq⟩ := ih h
      exact ⟨other, List.mem_cons_of_mem _ hother, heq⟩

end AbiBindings
