import AbiBindings.Text.Blank

/-! # Identifiers of a text

The identifiers of an emitted text are its maximal runs of letters, digits, `_` and `$`
(`mem_words_iff`). Texts are put together from parts, so everything here is about concatenation:
where a part ends or begins apart from its neighbour, no identifier runs across the border, and the
identifiers are those of the parts in order (`words_append_of_endsApart`,
`words_append_of_startsApart`, `words_intercalate`). -/

namespace AbiBindings.Text
set_option autoImplicit false

/-- The characters of identifiers in emitted code. -/
def isIdentifierChar (c : Char) : Bool :=
  c.isAlphanum || c == '_' || c == '$'

/-- The characters between identifiers. -/
def isSeparator (c : Char) : Bool :=
  !isIdentifierChar c

/-- The maximal runs of identifier characters, in order. -/
def words (s : List Char) : List (List Char) :=
  (s.splitOnP isSeparator).filter (!·.isEmpty)

/-- The identifiers of a text, in order and with repetitions. -/
def identifiers (t : String) : List String :=
  (words t.toList).map String.ofList

/-- Whether no identifier can run into the text from before. -/
def startsApart (s : List Char) : Bool :=
  s.head?.any isSeparator

/-- Whether no identifier can run on behind the text. -/
def endsApart (s : List Char) : Bool :=
  s.getLast?.any isSeparator

/-! ## Borders -/

theorem eq_cons_of_startsApart {s : List Char} (h : startsApart s = true) :
    ∃ c rest, s = c :: rest ∧ isSeparator c = true := by
  cases s with
  | nil => simp [startsApart] at h
  | cons c rest => exact ⟨c, rest, rfl, by simpa [startsApart] using h⟩

theorem eq_concat_of_endsApart {s : List Char} (h : endsApart s = true) :
    ∃ front c, s = front ++ [c] ∧ isSeparator c = true := by
  rcases List.eq_nil_or_concat s with rfl | ⟨front, c, rfl⟩
  · simp [endsApart] at h
  · exact ⟨front, c, by simp, by simpa [endsApart] using h⟩

theorem startsApart_append {s : List Char} (h : startsApart s = true) (t : List Char) :
    startsApart (s ++ t) = true := by
  obtain ⟨c, rest, rfl, hc⟩ := eq_cons_of_startsApart h
  simpa [startsApart] using hc

theorem endsApart_append {t : List Char} (h : endsApart t = true) (s : List Char) :
    endsApart (s ++ t) = true := by
  obtain ⟨front, c, rfl, hc⟩ := eq_concat_of_endsApart h
  rw [← List.append_assoc]
  simpa [endsApart] using hc

/-! ## Words of a concatenation -/

@[simp] theorem words_nil : words [] = [] :=
  rfl

theorem words_append_cons (s t : List Char) {c : Char} (hc : isSeparator c = true) :
    words (s ++ c :: t) = words s ++ words t := by
  rw [words, List.splitOnP_append_cons s t hc, List.filter_append]
  rfl

theorem words_append_of_endsApart {s : List Char} (h : endsApart s = true) (t : List Char) :
    words (s ++ t) = words s ++ words t := by
  obtain ⟨front, c, rfl, hc⟩ := eq_concat_of_endsApart h
  rw [List.append_assoc, List.singleton_append, words_append_cons _ _ hc, words_append_cons _ _ hc,
    words_nil, List.append_nil]

theorem words_append_of_startsApart (s : List Char) {t : List Char} (h : startsApart t = true) :
    words (s ++ t) = words s ++ words t := by
  obtain ⟨c, rest, rfl, hc⟩ := eq_cons_of_startsApart h
  have ht : words (c :: rest) = words rest := words_append_cons [] rest hc
  rw [words_append_cons _ _ hc, ht]

theorem words_eq_nil {s : List Char} (h : ∀ c ∈ s, isSeparator c = true) : words s = [] := by
  induction s with
  | nil => rfl
  | cons c rest ih =>
    have hrest : words (c :: rest) = words [] ++ words rest :=
      words_append_cons [] rest (h c List.mem_cons_self)
    rw [hrest, ih fun d hd => h d (List.mem_cons_of_mem c hd)]
    rfl

theorem words_eq_singleton {s : List Char} (hs : s ≠ [])
    (h : ∀ c ∈ s, isIdentifierChar c = true) : words s = [s] := by
  rw [words, List.splitOnP_eq_singleton fun c hc => by simp [isSeparator, h c hc]]
  simp [hs]

theorem words_intercalate {sep : List Char} (hne : sep ≠ [])
    (hsep : ∀ c ∈ sep, isSeparator c = true) (parts : List (List Char)) :
    words (sep.intercalate parts) = parts.flatMap words := by
  obtain ⟨c, rest, rfl⟩ := List.exists_cons_of_ne_nil hne
  have hrest : words rest = [] := words_eq_nil fun d hd => hsep d (List.mem_cons_of_mem c hd)
  have hends : endsApart (c :: rest) = true := by
    rw [endsApart, List.getLast?_eq_some_getLast hne]
    exact hsep _ (List.getLast_mem hne)
  have hgap : words (c :: rest) = [] := words_eq_nil hsep
  induction parts with
  | nil => rfl
  | cons s parts ih =>
    cases parts with
    | nil => simp [List.intercalate]
    | cons s' parts =>
      have hcons : (c :: rest).intercalate (s :: s' :: parts) =
          s ++ ((c :: rest) ++ (c :: rest).intercalate (s' :: parts)) := by
        simp [List.intercalate]
      have hstarts : startsApart ((c :: rest) ++ (c :: rest).intercalate (s' :: parts)) = true :=
        hsep c List.mem_cons_self
      rw [hcons, words_append_of_startsApart _ hstarts, words_append_of_endsApart hends, hgap, ih]
      rfl

theorem words_append_flatten {parts : List (List Char)} (h : ∀ t ∈ parts, startsApart t = true)
    (s : List Char) : words (s ++ parts.flatten) = words s ++ parts.flatMap words := by
  induction parts generalizing s with
  | nil => simp
  | cons t parts ih =>
    rw [List.flatten_cons, ← List.append_assoc, ih fun u hu => h u (List.mem_cons_of_mem t hu),
      words_append_of_startsApart s (h t List.mem_cons_self), List.flatMap_cons, List.append_assoc]

/-! ## What a word is -/

theorem isIdentifierChar_of_mem_takeWhile {s : List Char} {c : Char}
    (h : c ∈ s.takeWhile isIdentifierChar) : isIdentifierChar c = true := by
  simpa using List.all_eq_true.mp (List.all_takeWhile (p := isIdentifierChar) (l := s)) c h

/-- The pieces of a split: runs without separators, between separators or the ends of the text. -/
theorem mem_splitOnP_iff {s w : List Char} :
    w ∈ s.splitOnP isSeparator ↔ (∀ c ∈ w, isIdentifierChar c = true) ∧
      ∃ before after, s = before ++ w ++ after ∧ (before = [] ∨ endsApart before = true) ∧
        (after = [] ∨ startsApart after = true) := by
  have hsplit {front : List Char} (hfront : ∀ c ∈ front, isIdentifierChar c = true) :
      front.splitOnP isSeparator = [front] :=
    List.splitOnP_eq_singleton fun c hc => by simp [isSeparator, hfront c hc]
  constructor
  · induction hn : s.length using Nat.strongRecOn generalizing s with
    | _ n ih =>
      intro hw
      have hfront : ∀ c ∈ s.takeWhile isIdentifierChar, isIdentifierChar c = true :=
        fun c hc => isIdentifierChar_of_mem_takeWhile hc
      have hs := List.takeWhile_append_dropWhile (p := isIdentifierChar) (l := s)
      cases hrest : s.dropWhile isIdentifierChar with
      | nil =>
        rw [hrest, List.append_nil] at hs
        rw [← hs, hsplit hfront, List.mem_singleton] at hw
        exact ⟨hw ▸ hfront, [], [], by simp [hw, hs], .inl rfl, .inl rfl⟩
      | cons c rest =>
        -- one piece up to the first separator, then those of the rest
        have hc : isSeparator c = true := by
          have := List.head?_dropWhile_not isIdentifierChar s
          simpa [hrest, isSeparator] using this
        rw [hrest] at hs
        generalize s.takeWhile isIdentifierChar = front at hs hfront
        rw [← hs, List.splitOnP_append_cons _ _ hc, hsplit hfront] at hw
        rcases List.mem_append.mp hw with hw | hw
        · obtain rfl := List.mem_singleton.mp hw
          exact ⟨hfront, [], c :: rest, by simpa using hs.symm, .inl rfl, .inr hc⟩
        · have hlen : rest.length < n := by
            rw [← hn, ← hs]
            simp
            omega
          obtain ⟨hall, before, after, hsplit', hbefore, hafter⟩ := ih _ hlen rfl hw
          refine ⟨hall, front ++ c :: before, after, ?_, .inr ?_, hafter⟩
          · rw [← hs, hsplit']
            simp
          · apply endsApart_append
            rcases hbefore with rfl | hbefore
            · exact hc
            · exact endsApart_append hbefore [c]
  · rintro ⟨hw, before, after, rfl, hbefore, hafter⟩
    have hmid : w ∈ (w ++ after).splitOnP isSeparator := by
      rcases hafter with rfl | hafter
      · simp [hsplit hw]
      · obtain ⟨c, rest, rfl, hc⟩ := eq_cons_of_startsApart hafter
        simp [List.splitOnP_append_cons _ _ hc, hsplit hw]
    rw [List.append_assoc]
    rcases hbefore with rfl | hbefore
    · exact hmid
    · obtain ⟨front, c, rfl, hc⟩ := eq_concat_of_endsApart hbefore
      rw [List.append_assoc, List.singleton_append, List.splitOnP_append_cons _ _ hc]
      exact List.mem_append_right _ hmid

/-- The words of a text are its maximal runs of identifier characters. -/
theorem mem_words_iff {s w : List Char} :
    w ∈ words s ↔ w ≠ [] ∧ (∀ c ∈ w, isIdentifierChar c = true) ∧
      ∃ before after, s = before ++ w ++ after ∧ (before = [] ∨ endsApart before = true) ∧
        (after = [] ∨ startsApart after = true) := by
  rw [words, List.mem_filter, mem_splitOnP_iff, and_comm]
  simp

theorem infix_of_mem_words {s w : List Char} (h : w ∈ words s) : w <:+: s := by
  obtain ⟨-, -, before, after, hs, -, -⟩ := mem_words_iff.mp h
  exact ⟨before, after, hs.symm⟩

/-! ## Trimming -/

theorem toNat_of_isIdentifierChar {c : Char} (h : isIdentifierChar c = true) :
    36 ≤ c.toNat ∧ c.toNat ≤ 122 := by
  delta isIdentifierChar Char.isAlphanum Char.isAlpha Char.isUpper Char.isLower Char.isDigit at h
  simp only [Bool.or_eq_true, Bool.and_eq_true, decide_eq_true_eq, beq_iff_eq,
    UInt32.le_iff_toNat_le, ge_iff_le] at h
  rcases h with (((h | h) | h) | rfl) | rfl
  · change 65 ≤ c.toNat ∧ c.toNat ≤ 90 at h
    omega
  · change 97 ≤ c.toNat ∧ c.toNat ≤ 122 at h
    omega
  · change 48 ≤ c.toNat ∧ c.toNat ≤ 57 at h
    omega
  · decide
  · decide

theorem isSeparator_of_isBlank {c : Char} (h : isBlank c = true) : isSeparator c = true := by
  rw [isSeparator, Bool.not_eq_true', Bool.eq_false_iff]
  intro hc
  obtain ⟨hlow, hhigh⟩ := toNat_of_isIdentifierChar hc
  -- the only blanks below `z` are the space and the controls below it
  rw [isBlank, blankRanges, inRanges, inRanges, inRanges, if_neg (by omega), if_neg (by omega),
    if_neg (by omega), if_neg (by omega), if_pos (by omega)] at h
  exact Bool.false_ne_true h

theorem words_trimEnd (t : String) : words (trimEnd t).toList = words t.toList := by
  have hsplit := List.takeWhile_append_dropWhile (p := isBlank) (l := t.toList.reverse)
  have ht : t.toList = (trimEnd t).toList ++ (t.toList.reverse.takeWhile isBlank).reverse := by
    rw [trimEnd, dropTrailing, String.toList_ofList, ← List.reverse_append, hsplit,
      List.reverse_reverse]
  have hblank : ∀ c ∈ (t.toList.reverse.takeWhile isBlank).reverse, isSeparator c = true :=
    fun c hc => isSeparator_of_isBlank (by
      simpa using List.all_eq_true.mp List.all_takeWhile c (List.mem_reverse.mp hc))
  generalize (t.toList.reverse.takeWhile isBlank).reverse = blanks at ht hblank
  rw [ht]
  cases blanks with
  | nil => rw [List.append_nil]
  | cons c rest =>
    have hgap : words (c :: rest) = [] := words_eq_nil hblank
    have hstarts : startsApart (c :: rest) = true := hblank c List.mem_cons_self
    rw [words_append_of_startsApart _ hstarts, hgap, List.append_nil]

end AbiBindings.Text
