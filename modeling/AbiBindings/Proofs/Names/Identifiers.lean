import AbiBindings.Proofs.Names.Fresh
import AbiBindings.Proofs.Names.Resolution
import AbiBindings.Proofs.Text.Identifiers

/-! # Names that are identifiers

An identifier begins with a letter, `_` or `$`, and digits can follow (`IsIdentifier`). What is put
behind a name never touches its first character, so identifiers stay identifiers when they get a
suffix or a number (`keptByEndings_isIdentifier`). -/

namespace AbiBindings
set_option autoImplicit false

/-- The characters that identifiers begin with. -/
def Text.isInitial (c : Char) : Bool :=
  c.isAlpha || c == '_' || c == '$'

/-- A letter, `_` or `$`, with any number of letters, digits, `_` and `$` behind it. -/
def IsIdentifier (t : String) : Prop :=
  t.toList.head?.any Text.isInitial = true ∧ ∀ c ∈ t.toList, Text.isIdentifierChar c = true

-- over the characters of the text, and not over all characters that there are
instance (t : String) : Decidable (IsIdentifier t) :=
  @instDecidableAnd _ _ _ (List.decidableBAll (fun c => Text.isIdentifierChar c = true) t.toList)

/-! ## Characters -/

theorem Text.isDigit_eq_false_of_isAlpha {c : Char} (h : c.isAlpha = true) : c.isDigit = false := by
  delta Char.isAlpha Char.isUpper Char.isLower at h
  delta Char.isDigit
  simp only [Bool.or_eq_true, Bool.and_eq_true, decide_eq_true_eq, UInt32.le_iff_toNat_le,
    ge_iff_le] at h
  rw [Bool.and_eq_false_iff, decide_eq_false_iff_not, decide_eq_false_iff_not]
  refine .inr fun hle => ?_
  have hle := UInt32.le_iff_toNat_le.mp hle
  rcases h with h | h
  · change 65 ≤ c.toNat ∧ c.toNat ≤ 90 at h
    change c.toNat ≤ 57 at hle
    omega
  · change 97 ≤ c.toNat ∧ c.toNat ≤ 122 at h
    change c.toNat ≤ 57 at hle
    omega

theorem Text.isInitial_iff {c : Char} :
    isInitial c = true ↔ isIdentifierChar c = true ∧ c.isDigit = false := by
  simp only [isInitial, isIdentifierChar, Char.isAlphanum, Bool.or_eq_true, beq_iff_eq]
  constructor
  · rintro ((h | rfl) | rfl)
    · exact ⟨.inl (.inl (.inl h)), isDigit_eq_false_of_isAlpha h⟩
    · exact ⟨.inl (.inr rfl), by decide⟩
    · exact ⟨.inr rfl, by decide⟩
  · rintro ⟨((h | h) | h) | h, hdigit⟩
    · exact .inl (.inl h)
    · exact absurd h (by simp [hdigit])
    · exact .inl (.inr h)
    · exact .inr h

theorem isIdentifierChar_of_isDigit {c : Char} (h : c.isDigit = true) :
    Text.isIdentifierChar c = true := by
  simp [Text.isIdentifierChar, Char.isAlphanum, h]

theorem isIdentifierChar_append {a b : String}
    (ha : ∀ c ∈ a.toList, Text.isIdentifierChar c = true)
    (hb : ∀ c ∈ b.toList, Text.isIdentifierChar c = true) :
    ∀ c ∈ (a ++ b).toList, Text.isIdentifierChar c = true := by
  intro c hc
  rw [String.toList_append, List.mem_append] at hc
  exact hc.elim (ha c) (hb c)

theorem isIdentifierChar_suffix (scope : NameScope) :
    ∀ c ∈ scope.suffix.toList, Text.isIdentifierChar c = true := by
  have hsuffix : scope.suffix.toList.all Text.isIdentifierChar = true := by
    cases scope <;> decide
  exact List.all_eq_true.mp hsuffix

theorem isIdentifierChar_toString (n : Nat) :
    ∀ c ∈ (toString n).toList, Text.isIdentifierChar c = true :=
  fun _ hc => isIdentifierChar_of_isDigit (isDigit_of_mem_toString hc)

theorem keptByEndings_isIdentifierChar :
    KeptByEndings fun t => ∀ c ∈ t.toList, Text.isIdentifierChar c = true where
  suffix h scope := isIdentifierChar_append h (isIdentifierChar_suffix scope)
  number h n := isIdentifierChar_append h (isIdentifierChar_toString n)

/-! ## Identifiers -/

theorem IsIdentifier.of_head {t : String} (hchars : ∀ c ∈ t.toList, Text.isIdentifierChar c = true)
    {c : Char} (hc : t.toList.head? = some c) (hdigit : c.isDigit = false) : IsIdentifier t :=
  ⟨by simpa [hc] using Text.isInitial_iff.mpr ⟨hchars c (List.mem_of_head? hc), hdigit⟩, hchars⟩

theorem IsIdentifier.exists_head {t : String} (h : IsIdentifier t) :
    ∃ c, t.toList.head? = some c ∧ c.isDigit = false := by
  obtain ⟨c, hc, hinitial⟩ := (Option.any_eq_true _ _).mp h.1
  exact ⟨c, hc, (Text.isInitial_iff.mp hinitial).2⟩

theorem IsIdentifier.ne_empty {name : String} (h : IsIdentifier name) : name ≠ "" := by
  rintro rfl
  exact absurd h (by decide)

theorem IsIdentifier.append {a b : String} (ha : IsIdentifier a)
    (hb : ∀ c ∈ b.toList, Text.isIdentifierChar c = true) : IsIdentifier (a ++ b) := by
  obtain ⟨c, hc, hdigit⟩ := ha.exists_head
  refine .of_head (isIdentifierChar_append ha.2 hb) (c := c) ?_ hdigit
  rw [String.toList_append, List.head?_append, hc]
  rfl

theorem IsIdentifier.of_append {a b : String} (h : IsIdentifier (a ++ b)) (ha : a ≠ "") :
    IsIdentifier a := by
  obtain ⟨c, hc⟩ : ∃ c, a.toList.head? = some c :=
    Option.ne_none_iff_exists'.mp fun hnil => ha (by simpa using hnil)
  obtain ⟨d, hd, hdigit⟩ := h.exists_head
  rw [String.toList_append, List.head?_append, hc, Option.some_or, Option.some.injEq] at hd
  refine .of_head (fun e he => h.2 e ?_) hc (hd ▸ hdigit)
  rw [String.toList_append]
  exact List.mem_append_left _ he

theorem keptByEndings_isIdentifier : KeptByEndings IsIdentifier where
  suffix h scope := h.append (isIdentifierChar_suffix scope)
  number h n := h.append (isIdentifierChar_toString n)

end AbiBindings
