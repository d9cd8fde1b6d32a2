import AbiBindings.Proofs.Abi.Levels
import Mathlib.Data.Set.Function

/-! # Taking type texts apart

A text has a last level exactly when it is an element type followed by a size in brackets in which
no bracket opens (`lastLevel?_eq_some_iff`). So the three ways to take a text apart agree: the shape
(`TakesApart`), the count of levels and the text inside them (`Strips`) come from the same cuts, and
no slice leaves the text (`takesApart_iff`, `strips_iff`).

A shape can be read off its own text exactly when it is well formed (`ofText_text_iff`); these are
the shapes that texts have. -/

namespace AbiBindings
set_option autoImplicit false

namespace TypeText

/-! ## The last level -/

theorem lastLevel?_eq_some_iff {s element size : List Char} :
    lastLevel? s = some (element, size) ↔ s = element ++ '[' :: size ++ [']'] ∧ '[' ∉ size := by
  constructor
  · intro h
    refine ⟨eq_of_lastLevel? h, fun hmem => ?_⟩
    unfold lastLevel? at h
    split at h
    · rename_i rest _
      split at h
      · obtain ⟨-, rfl⟩ : _ ∧ (rest.takeWhile (· != '[')).reverse = size := by simpa using h
        have hne := List.all_eq_true.mp List.all_takeWhile _ (List.mem_reverse.mp hmem)
        exact absurd hne (by decide)
      · simp at h
    · simp at h
  · rintro ⟨rfl, hfree⟩
    have hall : ∀ c ∈ size.reverse, (c != '[') = true := by
      intro c hc
      have hne : c ≠ '[' := fun heq => hfree (heq ▸ List.mem_reverse.mp hc)
      simpa using hne
    have hreverse : (element ++ '[' :: size ++ [']']).reverse =
        ']' :: (size.reverse ++ '[' :: element.reverse) := by simp
    simp only [lastLevel?, hreverse, List.dropWhile_append_of_pos hall,
      List.takeWhile_append_of_pos hall]
    simp

theorem base_of_some {s : String} {element size : List Char}
    (h : lastLevel? s.toList = some (element, size)) : base s = String.ofList element := by
  rw [base, h]

theorem base_of_none {s : String} (h : lastLevel? s.toList = none) : base s = s := by
  rw [base, h]

theorem eq_append_of_lastLevel? {s : String} {element size : List Char}
    (h : lastLevel? s.toList = some (element, size)) :
    s = base s ++ "[" ++ String.ofList size ++ "]" := by
  rw [base_of_some h, ← String.toList_inj, eq_of_lastLevel? h]
  simp

/-- A text keeps its size exactly when there is no level to strip. -/
theorem utf8ByteSize_base_eq_iff {s : String} :
    (base s).utf8ByteSize = s.utf8ByteSize ↔ lastLevel? s.toList = none := by
  constructor
  · intro h
    cases hlevel : lastLevel? s.toList with
    | none => rfl
    | some level =>
      have hsize := congrArg String.utf8ByteSize (eq_append_of_lastLevel? hlevel)
      have hbracket : "[".utf8ByteSize = 1 := by decide
      simp only [String.utf8ByteSize_append] at hsize
      omega
  · intro h
    rw [base_of_none h]

theorem base_eq_self_iff {s : String} : base s = s ↔ lastLevel? s.toList = none :=
  ⟨fun h => utf8ByteSize_base_eq_iff.mp (congrArg String.utf8ByteSize h), base_of_none⟩

theorem toList_innermost (s : String) : (innermost s).toList = innermostOf s.toList := by
  rw [innermost, String.toList_ofList]

theorem innermost_append_levels (s : String) : innermost s ++ levels s = s := by
  have hsplit : innermostOf s.toList ++ s.toList.drop (innermostOf s.toList).length = s.toList := by
    induction s.toList using innermostOf.induct with
    | case1 t element size h ih =>
      rw [levels_of_some h, innermostOf_of_some h, ← List.append_assoc, ih, eq_of_lastLevel? h]
      simp
    | case2 t h => rw [innermostOf_of_none h, List.drop_length, List.append_nil]
  rw [innermost, levels, ← String.ofList_append, hsplit, String.ofList_toList]

/-! ## Stripping level by level -/

/-- Levels are stripped as long as the text gets shorter: how many there are, and what is left. -/
inductive Strips : String → Nat → String → Prop
  | done {s : String} (h : (base s).utf8ByteSize = s.utf8ByteSize) : Strips s 0 s
  | level {s inside : String} {k : Nat} (h : (base s).utf8ByteSize ≠ s.utf8ByteSize)
      (rest : Strips (base s) k inside) : Strips s (k + 1) inside

theorem depth_base_of_some {s : String} {level : List Char × List Char}
    (h : lastLevel? s.toList = some level) :
    depth s = depth (base s) + 1 ∧ innermost s = innermost (base s) := by
  rw [depth, depth, innermost, innermost, base_of_some h, String.toList_ofList, depthOf_of_some h,
    innermostOf_of_some h]
  exact ⟨rfl, rfl⟩

theorem length_base_lt {s : String} {level : List Char × List Char}
    (h : lastLevel? s.toList = some level) : (base s).length < s.length := by
  rw [base_of_some h, ← String.length_toList, ← String.length_toList, String.toList_ofList]
  exact length_lt_of_lastLevel? h

theorem strips (s : String) : Strips s (depth s) (innermost s) := by
  cases h : lastLevel? s.toList with
  | none =>
    have hinside : depth s = 0 ∧ innermost s = s := by
      rw [depth, innermost, depthOf_of_none h, innermostOf_of_none h, String.ofList_toList]
      exact ⟨rfl, rfl⟩
    rw [hinside.1, hinside.2]
    exact .done (utf8ByteSize_base_eq_iff.mpr h)
  | some level =>
    have hlt := length_base_lt h
    obtain ⟨hdepth, hinside⟩ := depth_base_of_some h
    rw [hdepth, hinside]
    exact .level (by simp [utf8ByteSize_base_eq_iff, h]) (strips (base s))
termination_by s.length

theorem Strips.unique {s inside inside' : String} {k k' : Nat} (h : Strips s k inside)
    (h' : Strips s k' inside') : k = k' ∧ inside = inside' := by
  induction h generalizing k' with
  | done hdone =>
    cases h' with
    | done _ => exact ⟨rfl, rfl⟩
    | level hmore _ => exact absurd hdone hmore
  | level hmore _ ih =>
    cases h' with
    | done hdone => exact absurd hdone hmore
    | level _ rest =>
      obtain ⟨rfl, rfl⟩ := ih rest
      exact ⟨rfl, rfl⟩

theorem strips_iff {s inside : String} {k : Nat} :
    Strips s k inside ↔ k = depth s ∧ inside = innermost s := by
  constructor
  · exact fun h => h.unique (strips s)
  · rintro ⟨rfl, rfl⟩
    exact strips s

/-! ## Slices -/

/-- A part of a text from one byte up to another, where both bounds fall between characters. -/
def IsSlice (s : String) (start stop : Nat) (part : String) : Prop :=
  ∃ before behind : String, s = before ++ part ++ behind ∧ before.utf8ByteSize = start ∧
    (before ++ part).utf8ByteSize = stop

/-- A text does not go on where it has no more bytes. -/
theorem eq_of_toList_eq_append {a b : String} {more : List Char} (h : b.toList = a.toList ++ more)
    (hsize : a.utf8ByteSize = b.utf8ByteSize) : a = b := by
  have hb : b = a ++ String.ofList more := by
    rw [← String.toList_inj, h]
    simp
  have hnone : (String.ofList more).utf8ByteSize = 0 := by
    rw [hb, String.utf8ByteSize_append] at hsize
    omega
  rw [hb, String.utf8ByteSize_eq_zero_iff.mp hnone, String.append_empty]

theorem append_inj_of_utf8ByteSize {a b x y : String} (h : a ++ x = b ++ y)
    (hsize : a.utf8ByteSize = b.utf8ByteSize) : a = b ∧ x = y := by
  have heq : a.toList ++ x.toList = b.toList ++ y.toList := by
    rw [← String.toList_append, h, String.toList_append]
  have hsame : a = b := by
    rcases List.append_eq_append_iff.mp heq with ⟨more, hb, -⟩ | ⟨more, ha, -⟩
    · exact eq_of_toList_eq_append hb hsize
    · exact (eq_of_toList_eq_append ha hsize.symm).symm
  subst hsame
  exact ⟨rfl, (String.append_right_inj a).mp h⟩

theorem IsSlice.unique {s part part' : String} {start stop : Nat} (h : IsSlice s start stop part)
    (h' : IsSlice s start stop part') : part = part' := by
  obtain ⟨before, behind, rfl, rfl, rfl⟩ := h
  obtain ⟨before', behind', heq, hstart, hstop⟩ := h'
  have hwhole := (append_inj_of_utf8ByteSize heq hstop.symm).1
  exact (append_inj_of_utf8ByteSize hwhole hstart.symm).2

theorem isSlice_base (s : String) : IsSlice s 0 (base s).utf8ByteSize (base s) := by
  cases h : lastLevel? s.toList with
  | none =>
    rw [base_of_none h]
    exact ⟨"", "", by simp, rfl, by simp⟩
  | some level =>
    refine ⟨"", "[" ++ String.ofList level.2 ++ "]", ?_, rfl, by simp⟩
    rw [String.empty_append, ← String.append_assoc, ← String.append_assoc]
    exact eq_append_of_lastLevel? h

/-- The size of the last level stands between its brackets. -/
theorem isSlice_size {s : String} {element size : List Char}
    (h : lastLevel? s.toList = some (element, size)) :
    IsSlice s ((base s).utf8ByteSize + 1) (s.utf8ByteSize - 1) (String.ofList size) := by
  have hs := eq_append_of_lastLevel? h
  have hopen : "[".utf8ByteSize = 1 := by decide
  have hclose : "]".utf8ByteSize = 1 := by decide
  have hsize := congrArg String.utf8ByteSize hs
  refine ⟨base s ++ "[", "]", hs, ?_, ?_⟩
  · rw [String.utf8ByteSize_append, hopen]
  · simp only [String.utf8ByteSize_append] at hsize ⊢
    omega

end TypeText

namespace TypeShape

open TypeText

/-! ## Shapes by slices -/

/-- A text without a level is a tuple or an elementary type. Any other text is cut before its last
level and between the brackets, and what stands before the level is taken apart in turn. -/
inductive TakesApart : String → TypeShape → Prop
  | leaf {s : String} (h : (base s).utf8ByteSize = s.utf8ByteSize) :
      TakesApart s (if s = tupleText then tuple else elementary s)
  | level {s part : String} {element : TypeShape} (h : (base s).utf8ByteSize ≠ s.utf8ByteSize)
      (before : IsSlice s 0 (base s).utf8ByteSize (base s))
      (size : IsSlice s ((base s).utf8ByteSize + 1) (s.utf8ByteSize - 1) part)
      (inside : TakesApart (base s) element) :
      TakesApart s (array element (if part = "" then none else some part))

theorem ofText_of_none {s : String} (h : lastLevel? s.toList = none) :
    ofText s = if s = tupleText then tuple else elementary s := by
  rw [ofText, ofChars_of_none h, String.ofList_toList]
  simp only [String.toList_inj]

theorem ofText_of_some {s : String} {element size : List Char}
    (h : lastLevel? s.toList = some (element, size)) :
    ofText s = array (ofText (base s))
      (if String.ofList size = "" then none else some (String.ofList size)) := by
  rw [ofText, ofChars_of_some h, ofText, base_of_some h, String.toList_ofList]
  cases size <;> simp

theorem takesApart (s : String) : TakesApart s (ofText s) := by
  cases h : lastLevel? s.toList with
  | none =>
    rw [ofText_of_none h]
    exact .leaf (utf8ByteSize_base_eq_iff.mpr h)
  | some level =>
    have hlt := length_base_lt h
    rw [ofText_of_some h]
    exact .level (by simp [utf8ByteSize_base_eq_iff, h]) (isSlice_base s) (isSlice_size h)
      (takesApart (base s))
termination_by s.length

theorem TakesApart.unique {s : String} {t t' : TypeShape} (h : TakesApart s t)
    (h' : TakesApart s t') : t = t' := by
  induction h generalizing t' with
  | leaf hleaf =>
    cases h' with
    | leaf _ => rfl
    | level hlevel _ _ _ => exact absurd hleaf hlevel
  | level hlevel _ hsize _ ih =>
    cases h' with
    | leaf hleaf => exact absurd hleaf hlevel
    | level _ _ hsize' inside =>
      rw [ih inside, hsize.unique hsize']

theorem takesApart_iff {s : String} {t : TypeShape} : TakesApart s t ↔ t = ofText s := by
  constructor
  · exact fun h => h.unique (takesApart s)
  · rintro rfl
    exact takesApart s

/-! ## Texts of shapes -/

theorem text_ofText (s : String) : (ofText s).text = s := by
  induction s using (measure String.length).wf.induction with
  | h s ih =>
    cases h : lastLevel? s.toList with
    | none =>
      rw [ofText_of_none h]
      split
      · rename_i htuple
        exact htuple.symm
      · rfl
    | some level =>
      have helement := ih (base s) (length_base_lt h)
      have hsize : (if String.ofList level.2 = "" then none
          else some (String.ofList level.2)).getD "" = String.ofList level.2 := by
        split
        · rename_i hempty
          exact hempty.symm
        · rfl
      rw [ofText_of_some h, text, helement, levelText, hsize, ← String.append_assoc,
        ← String.append_assoc]
      exact (eq_append_of_lastLevel? h).symm

theorem text_innermost_ofText (s : String) :
    (ofText s).innermost.text = TypeText.innermost s := by
  rw [ofText, innermost_ofChars, ← toList_innermost]
  exact text_ofText _

/-- Nothing in a shape can be mistaken for something else in its text. -/
def WellFormed : TypeShape → Prop
  | elementary name => name ≠ tupleText ∧ base name = name
  | tuple => True
  | array element size => element.WellFormed ∧ ∀ z ∈ size, z ≠ "" ∧ '[' ∉ z.toList

theorem wellFormed_ofText (s : String) : (ofText s).WellFormed := by
  induction s using (measure String.length).wf.induction with
  | h s ih =>
    cases h : lastLevel? s.toList with
    | none =>
      rw [ofText_of_none h]
      split
      · trivial
      · rename_i hname
        exact ⟨hname, base_of_none h⟩
    | some level =>
      rw [ofText_of_some h]
      refine ⟨ih (base s) (length_base_lt h), fun z hz => ?_⟩
      split at hz
      · simp at hz
      · rename_i hne
        obtain rfl : String.ofList level.2 = z := by simpa using hz
        rw [String.toList_ofList]
        exact ⟨hne, (lastLevel?_eq_some_iff.mp h).2⟩

theorem lastLevel?_append_levelText (t : String) {size : Option String}
    (h : ∀ z ∈ size, '[' ∉ z.toList) :
    lastLevel? (t ++ levelText size).toList = some (t.toList, (size.getD "").toList) := by
  refine lastLevel?_eq_some_iff.mpr ⟨?_, ?_⟩
  · simp [levelText]
  · cases size with
    | none => simp
    | some z => exact h z rfl

theorem ofText_text {t : TypeShape} (h : t.WellFormed) : ofText t.text = t := by
  induction t with
  | elementary name =>
    rw [text, ofText_of_none (base_eq_self_iff.mp h.2), if_neg h.1]
  | tuple => exact ofText_of_none (by decide +kernel)
  | array element size ih =>
    have hlevel := lastLevel?_append_levelText element.text fun z hz => (h.2 z hz).2
    rw [text, ofText_of_some hlevel, base_of_some hlevel, String.ofList_toList, ih h.1,
      String.ofList_toList]
    cases size with
    | none => rfl
    | some z => exact congrArg _ (if_neg (h.2 z rfl).1)

theorem ofText_text_iff {t : TypeShape} : ofText t.text = t ↔ t.WellFormed :=
  ⟨fun h => h ▸ wellFormed_ofText t.text, ofText_text⟩

/-! ## The statement -/

/-- Every text is taken apart, malformed ones included: the slices end with one shape and the
stripping with one count and one text inside all levels. The shape has as many levels as are
stripped, its text is the given one and its innermost part that text inside, which the levels
follow. A shape is read off its own text exactly when it is well formed, so that texts and well
formed shapes correspond to each other. -/
theorem texts_correspond_to_well_formed_shapes :
    (∀ s : String,
      (∀ t, TakesApart s t ↔ t = ofText s) ∧
      (∀ k inside, Strips s k inside ↔ k = TypeText.depth s ∧ inside = TypeText.innermost s) ∧
      (ofText s).text = s ∧
      (ofText s).depth = TypeText.depth s ∧
      (ofText s).innermost.text = TypeText.innermost s ∧
      TypeText.innermost s ++ TypeText.levels s = s) ∧
    (∀ t : TypeShape, ofText t.text = t ↔ t.WellFormed) ∧
    Set.BijOn ofText Set.univ {t | t.WellFormed} := by
  refine ⟨fun s => ⟨fun t => takesApart_iff, fun k inside => strips_iff, text_ofText s,
    depth_ofChars s.toList, text_innermost_ofText s, innermost_append_levels s⟩,
    fun t => ofText_text_iff, fun s _ => wellFormed_ofText s, fun s _ s' _ h => ?_,
    fun t ht => ⟨t.text, trivial, ofText_text ht⟩⟩
  rw [← text_ofText s, h, text_ofText]

/-- What closes a level is the last character only, and what opens it the last bracket. -/
example :
    ofText "a[b]c]" = array (elementary "a") (some "b]c") ∧ ofText "]" = elementary "]" ∧
      ofText "x[[]" = array (elementary "x[") none ∧ ofText "[]" = array (elementary "") none := by
  decide +kernel

end TypeShape
end AbiBindings
