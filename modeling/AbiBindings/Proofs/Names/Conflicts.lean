import AbiBindings.Names.Resolution
import AbiBindings.Proofs.Names.Fresh
import AbiBindings.Proofs.Text.Ascii

/-! # Names that conflict

A name conflicts in a scope when the scope reserves it, when a nested function may declare it, or,
where variables are declared, when it is a keyword or a symbol of the library (`conflicts_iff`).
No such name has an underscore, and every suffix has one. So a name with a suffix never conflicts,
whatever stands before and behind the suffix (`conflicts_append_suffix`). -/

namespace AbiBindings
set_option autoImplicit false

/-! ## Parameters of nested functions -/

theorem isStemWithDigits_iff {stem name : String} :
    isStemWithDigits stem name = true ↔
      ∃ digits : List Char, digits ≠ [] ∧ (∀ d ∈ digits, Text.isPatternDigit d = true) ∧
        name.toList = stem.toList ++ digits := by
  have hlen : stem.length = stem.toList.length := String.length_toList.symm
  rw [isStemWithDigits, hlen]
  constructor
  · intro h
    simp only [Bool.and_eq_true, List.isPrefixOf_iff_prefix, Bool.not_eq_true',
      List.isEmpty_eq_false_iff, List.all_eq_true] at h
    obtain ⟨⟨⟨digits, hname⟩, hne⟩, hall⟩ := h
    rw [← hname, List.drop_left] at hne hall
    exact ⟨digits, hne, hall, hname.symm⟩
  · rintro ⟨digits, hne, hall, hname⟩
    rw [hname, List.drop_left]
    simpa [hne] using hall

theorem isStemWithDigits_append_toString (stem : String) (n : Nat) :
    isStemWithDigits stem (stem ++ toString n) = true := by
  refine isStemWithDigits_iff.mpr ⟨(toString n).toList, ?_, ?_, String.toList_append⟩
  · rw [Nat.toString_eq_repr, Nat.toList_repr]
    exact Nat.toDigits_ne_nil
  · exact fun d hd => Text.isPatternDigit_of_isDigit (isDigit_of_mem_toString hd)

theorem underscore_not_mem_of_isStemWithDigits {stem name : String} (hstem : '_' ∉ stem.toList)
    (h : isStemWithDigits stem name = true) : '_' ∉ name.toList := by
  obtain ⟨digits, -, hall, hname⟩ := isStemWithDigits_iff.mp h
  intro hmem
  rw [hname, List.mem_append] at hmem
  rcases hmem with hmem | hmem
  · exact hstem hmem
  · have hdigit : Text.isPatternDigit '_' = true := hall _ hmem
    have hnone : Text.isPatternDigit '_' = false := by decide
    rw [hnone] at hdigit
    exact Bool.false_ne_true hdigit

namespace NameScope

variable (scope : NameScope)

theorem conflicts_iff {name : String} :
    scope.conflicts name = true ↔
      name ∈ scope.reserved ∨
        (scope.declaresVariables = true ∧ (name ∈ keywords ∨ name ∈ LibrarySymbol.names)) ∨
        isNestedParameter name = true := by
  simp only [conflicts, LibrarySymbol.isExported, Bool.or_eq_true, Bool.and_eq_true,
    List.contains_iff_mem, or_assoc]

/-! ## Suffixes -/

theorem underscore_not_mem_of_conflicts {name : String} (h : scope.conflicts name = true) :
    '_' ∉ name.toList := by
  have hreserved : ∀ n ∈ scope.reserved, '_' ∉ n.toList := by cases scope <;> decide
  have hkeywords : ∀ n ∈ keywords, '_' ∉ n.toList := by decide
  have hnames : ∀ n ∈ LibrarySymbol.names, '_' ∉ n.toList := by decide
  rcases scope.conflicts_iff.mp h with h | ⟨-, h | h⟩ | h
  · exact hreserved name h
  · exact hkeywords name h
  · exact hnames name h
  · rcases Bool.or_eq_true_iff.mp h with h | h
    · exact underscore_not_mem_of_isStemWithDigits (by decide) h
    · exact underscore_not_mem_of_isStemWithDigits (by decide) h

theorem conflicts_append_suffix (name more : String) :
    scope.conflicts (name ++ scope.suffix ++ more) = false := by
  have hsuffix : '_' ∈ scope.suffix.toList := by cases scope <;> decide
  rw [Bool.eq_false_iff]
  intro h
  refine scope.underscore_not_mem_of_conflicts h ?_
  rw [String.toList_append, String.toList_append]
  exact List.mem_append_left _ (List.mem_append_right _ hsuffix)

theorem conflicts_escape (name : String) : scope.conflicts (scope.escape name) = false := by
  unfold escape
  split
  · have h := scope.conflicts_append_suffix name ""
    rwa [String.append_empty] at h
  · rename_i h
    exact Bool.eq_false_iff.mpr h

theorem conflicts_candidate (name : String) (k : Nat) :
    scope.conflicts (scope.candidate name k) = false := by
  cases k with
  | zero => exact scope.conflicts_escape name
  | succ k => exact scope.conflicts_append_suffix name _

end NameScope
end AbiBindings
