import AbiBindings.Emit.ValueType
import AbiBindings.Proofs.Abi.Levels
import AbiBindings.Proofs.Names.Fresh

/-! # Names of elementary types

The grammar of elementary types lists every name with the type that holds its values
(`IsElementary`). A width is read as a decimal number, with one spelling beside the plain one: a
plus sign, behind which zeros are allowed (`width?_eq_some_iff`). So the names that are known are
those of the grammar and those with a signed width (`IsSigned`), and no others
(`elementary_names_are_the_grammar_and_signed_widths`). -/

namespace AbiBindings
set_option autoImplicit false

/-! ## Decimal texts -/

theorem exists_digitChar {c : Char} (h : c.isDigit = true) : ∃ d < 10, c = Nat.digitChar d := by
  rw [Char.isDigit_iff_toNat] at h
  have hlow : '0'.toNat = 48 := rfl
  have hhigh : '9'.toNat = 57 := rfl
  have hd : c.toNat - 48 < 10 := by omega
  refine ⟨c.toNat - 48, hd, Char.toNat_inj.mp ?_⟩
  rw [Nat.toNat_digitChar_of_lt_ten hd]
  omega

/-- Digits behind a number that is not zero continue its decimal text. -/
theorem toDigits_append_digits {digits : List Char} (h : ∀ c ∈ digits, c.isDigit = true) {n : Nat}
    (hn : 0 < n) :
    Nat.toDigits 10 (Nat.ofDigitChars 10 digits n) = Nat.toDigits 10 n ++ digits := by
  induction digits generalizing n with
  | nil => simp
  | cons c rest ih =>
    obtain ⟨d, hd, rfl⟩ := exists_digitChar (h c List.mem_cons_self)
    have hnext : Nat.toDigits 10 (10 * n + d) = Nat.toDigits 10 n ++ [d.digitChar] := by
      rw [← Nat.toDigits_append_toDigits (by decide) hn hd, Nat.toDigits_of_lt_base hd]
    rw [Nat.ofDigitChars_cons_digitChar_of_lt_ten hd,
      ih (fun x hx => h x (List.mem_cons_of_mem _ hx)) (by omega), hnext, List.append_assoc,
      List.singleton_append]

theorem toDigits_ofDigitChars {c : Char} {rest : List Char} (hc : c ≠ '0')
    (h : ∀ x ∈ c :: rest, x.isDigit = true) :
    Nat.toDigits 10 (Nat.ofDigitChars 10 (c :: rest) 0) = c :: rest := by
  obtain ⟨d, hd, rfl⟩ := exists_digitChar (h c List.mem_cons_self)
  have hpos : 0 < d := by
    apply Nat.pos_of_ne_zero
    rintro rfl
    exact hc rfl
  rw [Nat.ofDigitChars_cons_digitChar_of_lt_ten hd, Nat.mul_zero, Nat.zero_add,
    toDigits_append_digits (fun x hx => h x (List.mem_cons_of_mem _ hx)) hpos,
    Nat.toDigits_of_lt_base hd, List.singleton_append]

theorem head?_toDigits {n : Nat} (hn : 0 < n) : (Nat.toDigits 10 n).head? ≠ some '0' := by
  induction n using Nat.strongRecOn with
  | _ n ih =>
    rw [Nat.toDigits_eq_if (by decide)]
    by_cases hlt : n < 10
    · rw [if_pos hlt]
      intro h
      have hzero : n.digitChar.toNat = '0'.toNat := congrArg Char.toNat (Option.some.inj h)
      rw [Nat.toNat_digitChar_of_lt_ten hlt] at hzero
      have hlow : '0'.toNat = 48 := rfl
      omega
    · rw [if_neg hlt, List.head?_append, Option.or_of_isSome (by simp)]
      exact ih (n / 10) (by omega) (by omega)

/-- A text of digits is the decimal text of its value behind any number of zeros. -/
theorem decimalValue?_eq_some_iff {digits : List Char} {n : Nat} :
    decimalValue? digits = some n ↔ ∃ k, digits = List.replicate k '0' ++ Nat.toDigits 10 n := by
  unfold decimalValue?
  constructor
  · intro h
    split at h
    · simp at h
    · rename_i hdigits
      obtain ⟨hne, hall⟩ : digits ≠ [] ∧ ∀ c ∈ digits, c.isDigit = true := by simpa using hdigits
      obtain rfl : Nat.ofDigitChars 10 digits 0 = n := by simpa using h
      clear h hdigits
      induction digits with
      | nil => contradiction
      | cons c rest ih =>
        by_cases hc : c = '0'
        · subst hc
          by_cases hrest : rest = []
          · subst hrest
            exact ⟨0, rfl⟩
          · obtain ⟨k, hk⟩ := ih hrest fun x hx => hall x (List.mem_cons_of_mem _ hx)
            refine ⟨k + 1, ?_⟩
            have hvalue : Nat.ofDigitChars 10 ('0' :: rest) 0 = Nat.ofDigitChars 10 rest 0 := by
              simp [Nat.ofDigitChars_cons]
            rw [hvalue, List.replicate_succ, List.cons_append, ← hk]
        · exact ⟨0, (toDigits_ofDigitChars hc hall).symm⟩
  · rintro ⟨k, rfl⟩
    have hall : ∀ c ∈ List.replicate k '0' ++ Nat.toDigits 10 n, c.isDigit = true := by
      intro c hc
      rcases List.mem_append.mp hc with hc | hc
      · rw [List.eq_of_mem_replicate hc]
        rfl
      · exact Nat.isDigit_of_mem_toDigits (by decide) (by decide) hc
    have hvalue : Nat.ofDigitChars 10 (List.replicate k '0' ++ Nat.toDigits 10 n) 0 = n := by
      rw [Nat.ofDigitChars_append, Nat.ofDigitChars_replicate_zero, Nat.mul_zero,
        Nat.ofDigitChars_ten_toDigits]
    have hne : (List.replicate k '0' ++ Nat.toDigits 10 n).isEmpty = false := by simp
    rw [hne, List.all_eq_true.mpr hall, hvalue]
    rfl

/-- A width has at most sixteen bits, and is written plainly or behind a plus sign and any number of
zeros. -/
theorem width?_eq_some_iff {digits : List Char} {n : Nat} :
    width? digits = some n ↔ n < 65536 ∧
      (0 < n ∧ digits = Nat.toDigits 10 n ∨
        ∃ k, digits = '+' :: (List.replicate k '0' ++ Nat.toDigits 10 n)) := by
  have hdigit : ∀ c ∈ Nat.toDigits 10 n, c.isDigit = true := fun c hc =>
    Nat.isDigit_of_mem_toDigits (by decide) (by decide) hc
  unfold width?
  dsimp only
  rw [Option.filter_eq_some_iff, decide_eq_true_eq, and_comm]
  refine and_congr Iff.rfl ?_
  split
  · -- no text of a positive number begins with `0`
    rename_i rest
    refine ⟨by simp, ?_⟩
    rintro (⟨hn, h⟩ | ⟨k, h⟩)
    · exact absurd (congrArg List.head? h.symm) (head?_toDigits hn)
    · simp at h
  · rename_i rest
    rw [decimalValue?_eq_some_iff]
    constructor
    · rintro ⟨k, rfl⟩
      exact .inr ⟨k, rfl⟩
    · rintro (⟨-, h⟩ | ⟨k, h⟩)
      · have hplus := hdigit '+' (h ▸ List.mem_cons_self)
        exact absurd hplus (by decide)
      · exact ⟨k, List.tail_eq_of_cons_eq h⟩
  · rename_i hzero hplus
    rw [decimalValue?_eq_some_iff]
    constructor
    · rintro ⟨k, rfl⟩
      cases k with
      | zero =>
        refine .inl ⟨Nat.pos_of_ne_zero ?_, rfl⟩
        rintro rfl
        exact hzero [] rfl
      | succ k => exact absurd rfl (hzero (List.replicate k '0' ++ Nat.toDigits 10 n))
    · rintro (⟨-, h⟩ | ⟨k, h⟩)
      · exact ⟨0, h⟩
      · exact absurd h (hplus _)

/-- A number of zeros. -/
def zeros (k : Nat) : String :=
  String.ofList (List.replicate k '0')

theorem width?_toList_eq_some_iff {w : String} {n : Nat} :
    width? w.toList = some n ↔ n < 65536 ∧
      (0 < n ∧ w = toString n ∨ ∃ k, w = "+" ++ zeros k ++ toString n) := by
  have hdigits : (toString n).toList = Nat.toDigits 10 n := by
    rw [Nat.toString_eq_repr, Nat.toList_repr]
  rw [width?_eq_some_iff]
  refine and_congr Iff.rfl (or_congr (and_congr Iff.rfl ?_) (exists_congr fun k => ?_))
  · rw [← String.toList_inj, hdigits]
  · have hsigned : ("+" ++ zeros k ++ toString n).toList =
        '+' :: (List.replicate k '0' ++ Nat.toDigits 10 n) := by
      have hzeros : (zeros k).toList = List.replicate k '0' := String.toList_ofList
      rw [String.toList_append, String.toList_append, hdigits, hzeros]
      rfl
    rw [← String.toList_inj, hsigned]

/-! ## The grammar -/

/-- The names of elementary types, with the types that hold their values. -/
inductive IsElementary : String → ElementaryType → Prop where
  | address : IsElementary "address" .address
  | bool : IsElementary "bool" .bool
  | string : IsElementary "string" .string
  | bytes : IsElementary "bytes" .bytes
  | byte : IsElementary "byte" .bytes
  | uint : IsElementary "uint" .bigInt
  | int : IsElementary "int" .bigInt
  | uint8 : IsElementary "uint8" .uint8
  | int8 : IsElementary "int8" .int8
  | sizedBytes {n : Nat} (hn : 1 ≤ n ∧ n ≤ 32) : IsElementary ("bytes" ++ toString n) .bytes
  | wideUint {n : Nat} (hn : 8 < n ∧ n ≤ 256 ∧ n % 8 = 0) :
      IsElementary ("uint" ++ toString n) .bigInt
  | wideInt {n : Nat} (hn : 8 < n ∧ n ≤ 256 ∧ n % 8 = 0) :
      IsElementary ("int" ++ toString n) .bigInt

/-- The names whose width stands behind a plus sign and any number of zeros. No integer of such a
width stays a number. -/
inductive IsSigned : String → ElementaryType → Prop where
  | bytes {n : Nat} (k : Nat) (hn : 1 ≤ n ∧ n ≤ 32) :
      IsSigned ("bytes" ++ ("+" ++ zeros k ++ toString n)) .bytes
  | uint {n : Nat} (k : Nat) (hn : 8 ≤ n ∧ n ≤ 256 ∧ n % 8 = 0) :
      IsSigned ("uint" ++ ("+" ++ zeros k ++ toString n)) .bigInt
  | int {n : Nat} (k : Nat) (hn : 8 ≤ n ∧ n ≤ 256 ∧ n % 8 = 0) :
      IsSigned ("int" ++ ("+" ++ zeros k ++ toString n)) .bigInt

/-! ## Names with a width -/

theorem afterStem?_eq_some_iff {stem : String} {s rest : List Char} :
    afterStem? stem s = some rest ↔ s = stem.toList ++ rest := by
  have hlength : stem.length = stem.toList.length := String.length_toList.symm
  rw [afterStem?, hlength]
  constructor
  · intro h
    split at h
    · rename_i hstem
      obtain ⟨more, rfl⟩ := List.isPrefixOf_iff_prefix.mp hstem
      rw [List.drop_left, Option.some.injEq] at h
      rw [h]
    · simp at h
  · rintro rfl
    rw [if_pos (List.isPrefixOf_iff_prefix.mpr (List.prefix_append _ _)), List.drop_left]

namespace ElementaryType

/-- The names that are compared as they are: shorthands first, then plain names. -/
def fixedNames : List String :=
  ["uint", "int", "fixed", "ufixed", "byte", "address", "bool", "string", "bytes", "int8", "uint8"]

/-- The type of a name that consists of a stem and a width. -/
def sized? (s : List Char) : Option ElementaryType :=
  match afterStem? "bytes" s with
  | some rest => (width? rest).bind fun n => if 1 ≤ n ∧ n ≤ 32 then some bytes else none
  | none =>
    (afterStem? "uint" s <|> afterStem? "int" s).bind fun rest =>
      (width? rest).bind fun n => if 8 ≤ n ∧ n ≤ 256 ∧ n % 8 = 0 then some bigInt else none

theorem ofText?_of_not_fixed {s : String} (h : s ∉ fixedNames) : ofText? s = sized? s.toList := by
  simp only [fixedNames, List.mem_cons, List.not_mem_nil, or_false, not_or] at h
  simp only [ofText?, canonicalElementary, h, if_false]
  rfl

theorem append_not_mem_fixedNames {stem w : String} (ends : List String)
    (hends : ∀ s ∈ fixedNames, ∀ rest, afterStem? stem s.toList = some rest →
      rest ∈ ends.map String.toList) (hw : w ∉ ends) : stem ++ w ∉ fixedNames := by
  intro hmem
  have hrest : afterStem? stem (stem ++ w).toList = some w.toList := by
    rw [afterStem?_eq_some_iff, String.toList_append]
  obtain ⟨v, hv, hvw⟩ := List.mem_map.mp (hends _ hmem _ hrest)
  exact hw (String.toList_inj.mp hvw ▸ hv)

theorem ne_empty_of_width? {w : String} {n : Nat} (hw : width? w.toList = some n) : w ≠ "" := by
  rintro rfl
  have hnone : width? "".toList = none := rfl
  rw [hnone] at hw
  contradiction

theorem ofText?_bytes {w : String} {n : Nat} (hw : width? w.toList = some n) :
    ofText? ("bytes" ++ w) = if 1 ≤ n ∧ n ≤ 32 then some bytes else none := by
  have hfixed : "bytes" ++ w ∉ fixedNames := by
    refine append_not_mem_fixedNames [""] (by decide) ?_
    simpa using ne_empty_of_width? hw
  have hrest : afterStem? "bytes" ("bytes" ++ w).toList = some w.toList := by
    rw [afterStem?_eq_some_iff, String.toList_append]
  rw [ofText?_of_not_fixed hfixed, sized?, hrest]
  simp only [hw, Option.bind_some]

/-- Eight bits, written plainly, are the one width that names a type of its own. -/
theorem ofText?_integer {stem w : String} (hstem : stem = "uint" ∨ stem = "int") {n : Nat}
    (hw : width? w.toList = some n) (h8 : w ≠ "8") :
    ofText? (stem ++ w) = if 8 ≤ n ∧ n ≤ 256 ∧ n % 8 = 0 then some bigInt else none := by
  have hends : w ∉ ["", "8"] := by simpa using ⟨ne_empty_of_width? hw, h8⟩
  have hfixed : stem ++ w ∉ fixedNames := by
    rcases hstem with rfl | rfl
    · exact append_not_mem_fixedNames _ (by decide) hends
    · exact append_not_mem_fixedNames _ (by decide) hends
  have hrest : afterStem? stem (stem ++ w).toList = some w.toList := by
    rw [afterStem?_eq_some_iff, String.toList_append]
  have hbytes : afterStem? "bytes" (stem ++ w).toList = none := by
    rcases hstem with rfl | rfl <;> rw [String.toList_append] <;> rfl
  have hinteger : (afterStem? "uint" (stem ++ w).toList <|> afterStem? "int" (stem ++ w).toList) =
      some w.toList := by
    rcases hstem with rfl | rfl
    · rw [hrest]
      rfl
    · have huint : afterStem? "uint" ("int" ++ w).toList = none := by
        rw [String.toList_append]
        rfl
      rw [hrest, huint]
      rfl
  rw [ofText?_of_not_fixed hfixed, sized?, hbytes, hinteger]
  simp only [hw, Option.bind_some]

/-- A name that is known and not compared as it is has a width. -/
theorem exists_width_of_ofText? {s : String} (hs : s ∉ fixedNames) {t : ElementaryType}
    (h : ofText? s = some t) : ∃ w n, width? w.toList = some n ∧
      (s = "bytes" ++ w ∧ t = bytes ∧ (1 ≤ n ∧ n ≤ 32) ∨
        ∃ stem, (stem = "uint" ∨ stem = "int") ∧ s = stem ++ w ∧ w ≠ "8" ∧ t = bigInt ∧
          (8 ≤ n ∧ n ≤ 256 ∧ n % 8 = 0)) := by
  have hstem {stem : String} {rest : List Char} (h : afterStem? stem s.toList = some rest) :
      s = stem ++ String.ofList rest := by
    rw [← String.toList_inj, String.toList_append, String.toList_ofList]
    exact afterStem?_eq_some_iff.mp h
  rw [ofText?_of_not_fixed hs, sized?] at h
  split at h
  · rename_i rest hrest
    obtain ⟨n, hw, ht⟩ := Option.bind_eq_some_iff.mp h
    split at ht
    · rename_i hn
      refine ⟨String.ofList rest, n, by rwa [String.toList_ofList], .inl ⟨hstem hrest, ?_, hn⟩⟩
      exact (Option.some.inj ht).symm
    · simp at ht
  · obtain ⟨rest, hrest, h⟩ := Option.bind_eq_some_iff.mp h
    obtain ⟨n, hw, ht⟩ := Option.bind_eq_some_iff.mp h
    split at ht
    · rename_i hn
      obtain ⟨stem, hinteger, hs'⟩ : ∃ stem, (stem = "uint" ∨ stem = "int") ∧
          s = stem ++ String.ofList rest := by
        simp only [Option.orElse_eq_orElse, Option.orElse_eq_or, Option.or_eq_some_iff] at hrest
        rcases hrest with hrest | ⟨-, hrest⟩
        · exact ⟨"uint", .inl rfl, hstem hrest⟩
        · exact ⟨"int", .inr rfl, hstem hrest⟩
      refine ⟨String.ofList rest, n, by rwa [String.toList_ofList],
        .inr ⟨stem, hinteger, hs', ?_, (Option.some.inj ht).symm, hn⟩⟩
      intro h8
      rw [hs', h8] at hs
      rcases hinteger with rfl | rfl <;> exact hs (by decide)
    · simp at ht

theorem isElementary_or_isSigned_of_ofText? {s : String} {t : ElementaryType}
    (h : ofText? s = some t) : IsElementary s t ∨ IsSigned s t := by
  by_cases hs : s ∈ fixedNames
  · have htable : ∀ s ∈ fixedNames, ∀ t, ofText? s = some t →
        (s, t) ∈ [("uint", bigInt), ("int", bigInt), ("byte", bytes), ("address", address),
          ("bool", bool), ("string", string), ("bytes", bytes), ("int8", int8),
          ("uint8", uint8)] := by decide
    have hentry := htable s hs t h
    simp only [List.mem_cons, Prod.mk.injEq, List.not_mem_nil, or_false] at hentry
    left
    rcases hentry with ⟨rfl, rfl⟩ | ⟨rfl, rfl⟩ | ⟨rfl, rfl⟩ | ⟨rfl, rfl⟩ | ⟨rfl, rfl⟩ |
      ⟨rfl, rfl⟩ | ⟨rfl, rfl⟩ | ⟨rfl, rfl⟩ | ⟨rfl, rfl⟩ <;> constructor
  · obtain ⟨w, n, hw, hcase⟩ := exists_width_of_ofText? hs h
    obtain ⟨-, hwritten⟩ := width?_toList_eq_some_iff.mp hw
    rcases hcase with ⟨rfl, rfl, hn⟩ | ⟨stem, hstem, rfl, h8, rfl, hn⟩
    · rcases hwritten with ⟨-, rfl⟩ | ⟨k, rfl⟩
      · exact .inl (.sizedBytes hn)
      · exact .inr (.bytes k hn)
    · rcases hwritten with ⟨-, rfl⟩ | ⟨k, rfl⟩
      · have hne : n ≠ 8 := by
          rintro rfl
          exact h8 rfl
        have hwide : 8 < n ∧ n ≤ 256 ∧ n % 8 = 0 := by omega
        rcases hstem with rfl | rfl
        · exact .inl (.wideUint hwide)
        · exact .inl (.wideInt hwide)
      · rcases hstem with rfl | rfl
        · exact .inr (.uint k hn)
        · exact .inr (.int k hn)

theorem ofText?_of_isElementary {s : String} {t : ElementaryType} (h : IsElementary s t) :
    ofText? s = some t := by
  have hplain {n : Nat} (hn : 0 < n ∧ n ≤ 256) : width? (toString n).toList = some n :=
    width?_toList_eq_some_iff.mpr ⟨by omega, .inl ⟨hn.1, rfl⟩⟩
  have hne8 {n : Nat} (hn : 8 < n) : toString n ≠ "8" := by
    intro h
    have : n = 8 := append_toString_inj (congrArg ("" ++ ·) h)
    omega
  cases h with
  | sizedBytes hn => rw [ofText?_bytes (hplain (by omega)), if_pos hn]
  | wideUint hn =>
    rw [ofText?_integer (.inl rfl) (hplain (by omega)) (hne8 hn.1), if_pos (by omega)]
  | wideInt hn =>
    rw [ofText?_integer (.inr rfl) (hplain (by omega)) (hne8 hn.1), if_pos (by omega)]
  | _ => decide

theorem ofText?_of_isSigned {s : String} {t : ElementaryType} (h : IsSigned s t) :
    ofText? s = some t := by
  have hsigned {n : Nat} (k : Nat) (hn : n ≤ 256) :
      width? ("+" ++ zeros k ++ toString n).toList = some n :=
    width?_toList_eq_some_iff.mpr ⟨by omega, .inr ⟨k, rfl⟩⟩
  have hne8 {n : Nat} (k : Nat) : "+" ++ zeros k ++ toString n ≠ "8" := by
    intro h
    have hhead := congrArg (fun s => s.toList.head?) h
    simp at hhead
  cases h with
  | bytes k hn => rw [ofText?_bytes (hsigned k (by omega)), if_pos hn]
  | uint k hn => rw [ofText?_integer (.inl rfl) (hsigned k (by omega)) (hne8 k), if_pos hn]
  | int k hn => rw [ofText?_integer (.inr rfl) (hsigned k (by omega)) (hne8 k), if_pos hn]

theorem ofText?_eq_some_iff {s : String} {t : ElementaryType} :
    ofText? s = some t ↔ IsElementary s t ∨ IsSigned s t := by
  constructor
  · exact isElementary_or_isSigned_of_ofText?
  · rintro (h | h)
    · exact ofText?_of_isElementary h
    · exact ofText?_of_isSigned h

end ElementaryType

theorem plus_mem_of_isSigned {s : String} {t : ElementaryType} (h : IsSigned s t) :
    '+' ∈ s.toList := by
  cases h <;> simp

theorem plus_not_mem_of_isElementary {s : String} {t : ElementaryType} (h : IsElementary s t) :
    '+' ∉ s.toList := by
  have hnumber (n : Nat) : '+' ∉ (toString n).toList := by
    intro hmem
    exact absurd (isDigit_of_mem_toString hmem) (by decide)
  cases h with
  | sizedBytes _ => simpa using hnumber _
  | wideUint _ => simpa using hnumber _
  | wideInt _ => simpa using hnumber _
  | _ => decide

/-! ## The type of a parameter -/

theorem StructRegistry.text_valueType_eq_unknown_iff (r : StructRegistry) {p : Parameter}
    (ha : p.isArray = false) (ht : p.isTuple = false) :
    (r.valueType p).text = "unknown" ↔ ElementaryType.ofText? p.typeText = none := by
  have hshape := Parameter.shape_of_plain ha ht
  have hdepth : (r.valueType p).depth = 0 := by rw [valueType, hshape]; rfl
  rw [ValueType.text, markedName, hdepth]
  rw [valueType, valueBase, hshape]
  cases hname : ElementaryType.ofText? p.typeText with
  | none => simp [TypeShape.innermost, hname, ValueBase.name]
  | some type =>
    have hknown : type.text ≠ "unknown" := by cases type <;> decide
    simpa [TypeShape.innermost, hname, ValueBase.name] using hknown

/-! ## The statement -/

/-- A name is known exactly when the grammar has it or its width stands behind a plus sign; so names
are known by the grammar alone exactly as long as there is no such sign. Only `int8` and `uint8`
stay numbers, and a parameter that is neither an array nor a tuple has the unknown type exactly
when its type is no known name. -/
theorem elementary_names_are_the_grammar_and_signed_widths (s : String) :
    (∀ t, ElementaryType.ofText? s = some t ↔ IsElementary s t ∨ IsSigned s t) ∧
    ((∀ t, ElementaryType.ofText? s = some t ↔ IsElementary s t) ↔ ∀ t, ¬ IsSigned s t) ∧
    (ElementaryType.ofText? s = some .int8 ↔ s = "int8") ∧
    (ElementaryType.ofText? s = some .uint8 ↔ s = "uint8") ∧
    ∀ (r : StructRegistry) (p : Parameter),
      p.typeText = s → p.isArray = false → p.isTuple = false →
      ((r.valueType p).text = "unknown" ↔ ∀ t, ¬ IsElementary s t ∧ ¬ IsSigned s t) := by
  refine ⟨fun t => ElementaryType.ofText?_eq_some_iff, ⟨?_, ?_⟩, ⟨?_, ?_⟩, ⟨?_, ?_⟩, ?_⟩
  · intro hgrammar t hsigned
    have helementary : IsElementary s t :=
      (hgrammar t).mp (ElementaryType.ofText?_of_isSigned hsigned)
    exact plus_not_mem_of_isElementary helementary (plus_mem_of_isSigned hsigned)
  · intro hplain t
    rw [ElementaryType.ofText?_eq_some_iff, or_iff_left (hplain t)]
  · rw [ElementaryType.ofText?_eq_some_iff]
    rintro (h | h) <;> cases h
    rfl
  · rintro rfl
    exact ElementaryType.ofText?_of_isElementary .int8
  · rw [ElementaryType.ofText?_eq_some_iff]
    rintro (h | h) <;> cases h
    rfl
  · rintro rfl
    exact ElementaryType.ofText?_of_isElementary .uint8
  · rintro r p rfl ha ht
    rw [r.text_valueType_eq_unknown_iff ha ht, Option.eq_none_iff_forall_ne_some]
    refine forall_congr' fun t => ?_
    rw [ne_eq, ElementaryType.ofText?_eq_some_iff, not_or]

/-- A width with a zero in front is unknown, unless a plus sign stands before it. -/
theorem bytes_of_zero_one :
    let plain : Parameter := { typeText := "bytes01" }
    let signed : Parameter := { typeText := "bytes+01" }
    plain.isArray = false ∧ plain.isTuple = false ∧
      (({} : StructRegistry).valueType plain).text = "unknown" ∧
      (({} : StructRegistry).valueType signed).text = "Bytes" ∧
      ∀ t, ¬ IsElementary "bytes01" t ∧ ¬ IsSigned "bytes01" t := by
  intro plain signed
  have ha : plain.isArray = false := by decide +kernel
  have ht : plain.isTuple = false := by decide +kernel
  have hunknown : (({} : StructRegistry).valueType plain).text = "unknown" := by decide +kernel
  obtain ⟨-, -, -, -, hiff⟩ := elementary_names_are_the_grammar_and_signed_widths "bytes01"
  exact ⟨ha, ht, hunknown, by decide +kernel, (hiff {} plain rfl ha ht).mp hunknown⟩

/-- `uint+16` is no name of the grammar and is taken for an integer of sixteen bits. -/
theorem signed_width_is_accepted :
    ElementaryType.ofText? "uint+16" = some .bigInt ∧ ∀ t, ¬ IsElementary "uint+16" t := by
  refine ⟨by decide +kernel, fun t h => ?_⟩
  exact plus_not_mem_of_isElementary h (by decide)

end AbiBindings
