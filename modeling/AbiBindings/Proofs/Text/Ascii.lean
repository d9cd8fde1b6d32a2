import AbiBindings.Proofs.Text.Identifiers
import AbiBindings.Text.Letters

/-! # ASCII texts

The words of patterns are defined for all scripts. In ASCII their characters are those of
identifiers without `$` (`isWordChar_of_lt_128`). Facts about single characters are checked one by
one; there are 128 of them (`of_lt_128`). -/

namespace AbiBindings.Text
set_option autoImplicit false

/-- All characters are ASCII. -/
def IsAscii (s : List Char) : Prop :=
  ∀ c ∈ s, c.toNat < 128

instance (s : List Char) : Decidable (IsAscii s) :=
  List.decidableBAll (fun c : Char => c.toNat < 128) s

/-- What holds of the first 128 characters one by one. -/
theorem of_lt_128 {p : Char → Bool} (h : ((List.range 128).all fun n => p (Char.ofNat n)) = true)
    {c : Char} (hc : c.toNat < 128) : p c = true := by
  have hn := List.all_eq_true.mp h c.toNat (List.mem_range.mpr hc)
  rwa [Char.ofNat_toNat] at hn

/-- In ASCII, `$` is the one character of identifiers that words lack. -/
theorem isWordChar_of_lt_128 {c : Char} (hc : c.toNat < 128) :
    isWordChar c = (isIdentifierChar c && c != '$') :=
  eq_of_beq <| of_lt_128 (p := fun c => isWordChar c == (isIdentifierChar c && c != '$'))
    (by decide +kernel) hc

theorem isIdentifierChar_of_isWordChar {c : Char} (hc : c.toNat < 128) (h : isWordChar c = true) :
    isIdentifierChar c = true := by
  rw [isWordChar_of_lt_128 hc, Bool.and_eq_true] at h
  exact h.1

theorem isWordChar_of_isIdentifierChar {c : Char} (h : isIdentifierChar c = true) :
    isWordChar c = (c != '$') := by
  have hbound := toNat_of_isIdentifierChar h
  rw [isWordChar_of_lt_128 (by omega), h, Bool.true_and]

theorem isPatternDigit_of_isDigit {c : Char} (h : c.isDigit = true) : isPatternDigit c = true := by
  have hlow : c.toNat < 128 := by
    have hchar : isIdentifierChar c = true := by simp [isIdentifierChar, Char.isAlphanum, h]
    have hbound := (toNat_of_isIdentifierChar hchar).2
    omega
  have hall : (!c.isDigit || isPatternDigit c) = true :=
    of_lt_128 (p := fun c => !c.isDigit || isPatternDigit c) (by decide +kernel) hlow
  simpa [h] using hall

namespace IsAscii

theorem ofList {s : List Char} (h : s.all (·.toNat < 128) = true) :
    IsAscii (String.ofList s).toList := by
  intro c hc
  rw [String.toList_ofList] at hc
  simpa using List.all_eq_true.mp h c hc

theorem append {s t : List Char} (hs : IsAscii s) (ht : IsAscii t) : IsAscii (s ++ t) :=
  fun c hc => (List.mem_append.mp hc).elim (hs c) (ht c)

theorem of_subset {s t : List Char} (ht : IsAscii t) (h : s ⊆ t) : IsAscii s :=
  fun c hc => ht c (h hc)

end IsAscii
end AbiBindings.Text
