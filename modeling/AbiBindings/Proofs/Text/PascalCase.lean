import AbiBindings.Proofs.Text.Ascii
import AbiBindings.Text.PascalCase

/-! # Pascal case of ASCII texts

In ASCII every character is a cluster of its own and the mappings of case are those of single
letters. So the characters of a Pascal-case form are those of the text in either case
(`mem_pascalCase`), and its first character is the first one that is no separator, as a capital
(`head?_pascalCase`). -/

namespace AbiBindings.Text
set_option autoImplicit false

/-! ## Characters -/

theorem joinsCluster_of_isAscii {before c : Char} (hbefore : before.toNat < 128)
    (hc : c.toNat < 128) : joinsCluster before c = false := by
  have hhangul : hangulPart? before = none := by
    rw [hangulPart?]
    exact if_pos (by omega)
  have hleft : isPrepended before = false := by
    simpa using of_lt_128 (p := fun c => !isPrepended c) (by decide +kernel) hbefore
  have hright : (isExtender c || isSpacingMark c) = false := by
    simpa using of_lt_128 (p := fun c => !(isExtender c || isSpacingMark c)) (by decide +kernel) hc
  rw [joinsCluster, hright, hleft, hhangul]
  rfl

theorem upperCase_of_isAscii {c : Char} (hc : c.toNat < 128) : upperCase [c] = [c.toUpper] := by
  simpa using of_lt_128 (p := fun c => upperCase [c] == [c.toUpper]) (by decide +kernel) hc

theorem lowerCaseAfter_of_isAscii {s : List Char} (h : IsAscii s) (before : List Char) :
    lowerCaseAfter before s = s.map Char.toLower := by
  induction s generalizing before with
  | nil => rfl
  | cons c rest ih =>
    have hc : c.toNat < 128 := h c List.mem_cons_self
    have hsigma : c ≠ 'Σ' := by
      rintro rfl
      exact absurd hc (by decide)
    have himage : caseImage lowerRuns lowerSequences c = [c.toLower] := by
      simpa using of_lt_128 (p := fun c => caseImage lowerRuns lowerSequences c == [c.toLower])
        (by decide +kernel) hc
    rw [lowerCaseAfter, if_neg hsigma, himage, ih fun d hd => h d (List.mem_cons_of_mem c hd)]
    rfl

theorem capitalize_of_isAscii {c : Char} {rest : List Char} (h : IsAscii (c :: rest)) :
    capitalize (c :: rest) = c.toUpper :: rest.map Char.toLower := by
  rw [capitalize, upperCase_of_isAscii (h c List.mem_cons_self), lowerCase,
    lowerCaseAfter_of_isAscii fun d hd => h d (List.mem_cons_of_mem c hd)]
  rfl

theorem clusters_of_isAscii {s : List Char} (h : IsAscii s) : clusters s = s.map fun c => [c] := by
  induction s with
  | nil => rfl
  | cons c rest ih =>
    have hrest := ih fun d hd => h d (List.mem_cons_of_mem c hd)
    cases rest with
    | nil => rfl
    | cons d more =>
      have hd : d ∈ c :: d :: more := List.mem_cons_of_mem c List.mem_cons_self
      rw [clusters, hrest]
      simp [joinsCluster_of_isAscii (h c List.mem_cons_self) (h d hd)]

/-! ## Words -/

theorem mem_wordsAfter {before? : Option (List Char)} {word gs ws : List (List Char)}
    (hws : ws ∈ wordsAfter before? word gs) {g : List Char} (hg : g ∈ ws) : g ∈ word ∨ g ∈ gs := by
  induction gs generalizing before? word with
  | nil =>
    rw [wordsAfter, List.mem_singleton] at hws
    exact .inl (by simpa [hws] using hg)
  | cons d rest ih =>
    rw [wordsAfter] at hws
    split at hws
    · rcases List.mem_cons.mp hws with rfl | hws
      · exact .inl (List.mem_reverse.mp hg)
      · exact (ih hws).elim (by simp) fun h => .inr (List.mem_cons_of_mem d h)
    · split at hws
      · rcases List.mem_cons.mp hws with rfl | hws
        · exact .inl (List.mem_reverse.mp hg)
        · rcases ih hws with h | h
          · exact .inr (by simp [List.mem_singleton.mp h])
          · exact .inr (List.mem_cons_of_mem d h)
      · rcases ih hws with h | h
        · exact (List.mem_cons.mp h).elim (fun h => .inr (by simp [h])) .inl
        · exact .inr (List.mem_cons_of_mem d h)

theorem mem_pascalCase {s : List Char} (h : IsAscii s) {c : Char} (hc : c ∈ pascalCase s) :
    ∃ d ∈ s, c = d.toUpper ∨ c = d.toLower := by
  obtain ⟨word, hword, hc⟩ := List.mem_flatMap.mp hc
  have hsub : word.flatten ⊆ s := by
    intro d hd
    obtain ⟨g, hg, hd⟩ := List.mem_flatten.mp hd
    have hcluster := (mem_wordsAfter hword hg).resolve_left (by simp)
    rw [clusters_of_isAscii h] at hcluster
    obtain ⟨e, he, rfl⟩ := List.mem_map.mp hcluster
    exact List.mem_singleton.mp hd ▸ he
  cases hflatten : word.flatten with
  | nil => simp [hflatten, capitalize] at hc
  | cons d rest =>
    rw [hflatten] at hsub hc
    rw [capitalize_of_isAscii (h.of_subset hsub)] at hc
    rcases List.mem_cons.mp hc with rfl | hc
    · exact ⟨d, hsub List.mem_cons_self, .inl rfl⟩
    · obtain ⟨e, he, rfl⟩ := List.mem_map.mp hc
      exact ⟨e, hsub (List.mem_cons_of_mem d he), .inr rfl⟩

theorem IsAscii.pascalCase {s : List Char} (h : IsAscii s) : IsAscii (pascalCase s) := by
  intro c hc
  obtain ⟨d, hd, hcase⟩ := mem_pascalCase h hc
  have hcased := of_lt_128 (p := fun c => c.toUpper.toNat < 128 && c.toLower.toNat < 128)
    (by decide +kernel) (h d hd)
  rw [Bool.and_eq_true, decide_eq_true_eq, decide_eq_true_eq] at hcased
  rcases hcase with rfl | rfl
  · exact hcased.1
  · exact hcased.2

theorem head?_flatMap_capitalize {word : List (List Char)} {c : Char} {rest : List Char}
    (hword : word.flatten = c :: rest) (hc : c.toNat < 128) (words : List (List (List Char))) :
    ((word :: words).flatMap fun word => capitalize word.flatten).head? = some c.toUpper := by
  rw [List.flatMap_cons, hword, capitalize, upperCase_of_isAscii hc]
  rfl

/-- The word under way decides the first character. -/
theorem head?_wordsAfter {before? : Option (List Char)} {word gs : List (List Char)} {c : Char}
    {rest : List Char} (hword : word.reverse.flatten = c :: rest) (hc : c.toNat < 128) :
    ((wordsAfter before? word gs).flatMap fun word => capitalize word.flatten).head? =
      some c.toUpper := by
  induction gs generalizing before? word rest with
  | nil => exact head?_flatMap_capitalize hword hc []
  | cons g gs ih =>
    rw [wordsAfter]
    split
    · exact head?_flatMap_capitalize hword hc _
    · split
      · exact head?_flatMap_capitalize hword hc _
      · have hlonger : (g :: word).reverse.flatten = c :: (rest ++ g) := by simp [hword]
        exact ih hlonger

theorem head?_pascalCase {s : List Char} (h : IsAscii s) :
    (pascalCase s).head? = (s.find? fun c => !isSeparatorCluster [c]).map Char.toUpper := by
  rw [pascalCase, clusters_of_isAscii h]
  generalize (none : Option (List Char)) = before?
  induction s generalizing before? with
  | nil => rfl
  | cons c rest ih =>
    have hc : c.toNat < 128 := h c List.mem_cons_self
    rw [List.map_cons, wordsAfter]
    split
    · rename_i hseparator
      rw [List.find?_cons_of_neg (by simp [hseparator])]
      exact ih (fun d hd => h d (List.mem_cons_of_mem c hd)) _
    · rename_i hseparator
      rw [List.find?_cons_of_pos (by simp [hseparator])]
      split
      · exact head?_wordsAfter rfl hc
      · exact head?_wordsAfter rfl hc

end AbiBindings.Text
