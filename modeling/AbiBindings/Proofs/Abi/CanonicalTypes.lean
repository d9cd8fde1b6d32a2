import AbiBindings.Proofs.Abi.Decomposition

/-! # Canonical types are projections

A canonical type is that of the innermost parameter followed by the array levels as they are
written. It is the text of a well formed shape, which has the levels of the type around the
canonical type inside (`canonicalText_eq_text`). So it is taken apart into the same levels, and what
stands inside them is canonical already: making a canonical type canonical changes nothing, whatever
the characters of the type (`canonical_types_are_projections`). -/

namespace AbiBindings
set_option autoImplicit false

/-! ## Elementary names -/

theorem canonicalElementary_canonicalElementary (name : String) :
    canonicalElementary (canonicalElementary name) = canonicalElementary name := by
  rcases canonicalElementary_cases name with h | h
  · rw [h, h]
  · simp only [List.mem_cons, List.not_mem_nil, or_false] at h
    rcases h with h | h | h | h | h <;> rw [h] <;> decide +kernel

namespace TypeShape

theorem wellFormed_canonicalElementary {name : String} (h : (elementary name).WellFormed) :
    (elementary (canonicalElementary name)).WellFormed := by
  rcases canonicalElementary_cases name with he | he
  · rw [he]
    exact h
  · simp only [List.mem_cons, List.not_mem_nil, or_false] at he
    rcases he with he | he | he | he | he <;> rw [he] <;>
      exact ⟨by decide, TypeText.base_of_none (by decide +kernel)⟩

/-! ## Lists of types -/

/-- What ends in a parenthesis has no array level. -/
theorem lastLevel?_typeList (types : List String) :
    TypeText.lastLevel? (typeList types).toList = none := by
  cases h : TypeText.lastLevel? (typeList types).toList with
  | none => rfl
  | some level =>
    have hlast := congrArg List.getLast? (TypeText.eq_of_lastLevel? h)
    rw [typeList, String.toList_append, List.getLast?_append, List.getLast?_append] at hlast
    simp at hlast

theorem head?_typeList (types : List String) : (typeList types).toList.head? = some '(' := by
  rw [typeList, String.toList_append, String.toList_append]
  rfl

theorem wellFormed_typeList (types : List String) : (elementary (typeList types)).WellFormed := by
  refine ⟨fun h => ?_, TypeText.base_of_none (lastLevel?_typeList types)⟩
  have hhead := head?_typeList types
  rw [h] at hhead
  exact absurd hhead (by decide)

theorem canonicalElementary_typeList (types : List String) :
    canonicalElementary (typeList types) = typeList types := by
  have hne : ∀ name ∈ ["uint", "int", "fixed", "ufixed", "byte"], typeList types ≠ name := by
    intro name hname h
    have hhead := head?_typeList types
    have hnone : ∀ n ∈ ["uint", "int", "fixed", "ufixed", "byte"], n.toList.head? ≠ some '(' := by
      decide
    rw [h] at hhead
    exact hnone name hname hhead
  simp only [List.forall_mem_cons] at hne
  obtain ⟨huint, hint, hfixed, hufixed, hbyte, -⟩ := hne
  rw [canonicalElementary, if_neg huint, if_neg hint, if_neg hfixed, if_neg hufixed, if_neg hbyte]

/-! ## Levels around another type -/

/-- The array levels of a shape around another innermost type. -/
def levelsAround : TypeShape → TypeShape → TypeShape
  | array element size, inside => array (element.levelsAround inside) size
  | _, inside => inside

theorem wellFormed_levelsAround {inside s : TypeShape} (hs : s.WellFormed)
    (hinside : inside.WellFormed) : (s.levelsAround inside).WellFormed := by
  induction s with
  | elementary name => exact hinside
  | tuple => exact hinside
  | array element size ih => exact ⟨ih hs.1, hs.2⟩

theorem wellFormed_innermost {s : TypeShape} (h : s.WellFormed) : s.innermost.WellFormed := by
  induction s with
  | elementary name => exact h
  | tuple => exact h
  | array element size ih => exact ih h.1

/-- A canonical text is the text of the levels around the canonical text inside them. -/
theorem canonicalText_eq_text (tupleList : String) (s : TypeShape) :
    s.canonicalText tupleList =
      (s.levelsAround (elementary (s.innermost.canonicalText tupleList))).text := by
  induction s with
  | elementary name => rfl
  | tuple => rfl
  | array element size ih => rw [canonicalText, ih, levelsAround, text, innermost]

theorem canonicalText_levelsAround {name : String} (h : canonicalElementary name = name)
    (tupleList : String) (s : TypeShape) :
    (s.levelsAround (elementary name)).canonicalText tupleList =
      (s.levelsAround (elementary name)).text := by
  induction s with
  | elementary _ => exact h
  | tuple => exact h
  | array element size ih => rw [levelsAround, canonicalText, ih, text]

/-- What stands inside all levels is canonical already, and in no canonical text it is mistaken for
a tuple or for another level. -/
theorem canonicalText_innermost_settled {s : TypeShape} (hs : s.WellFormed) (types : List String) :
    (elementary (s.innermost.canonicalText (typeList types))).WellFormed ∧
      canonicalElementary (s.innermost.canonicalText (typeList types)) =
        s.innermost.canonicalText (typeList types) := by
  have hinnermost := wellFormed_innermost hs
  rcases s.innermost_eq with ⟨h, -⟩ | ⟨name, h, -⟩
  · rw [h, canonicalText]
    exact ⟨wellFormed_typeList types, canonicalElementary_typeList types⟩
  · rw [h] at hinnermost
    rw [h, canonicalText]
    exact ⟨wellFormed_canonicalElementary hinnermost,
      canonicalElementary_canonicalElementary name⟩

theorem canonicalText_canonicalText {s : TypeShape} (hs : s.WellFormed) (types : List String)
    (tupleList : String) :
    (ofText (s.canonicalText (typeList types))).canonicalText tupleList =
      s.canonicalText (typeList types) := by
  obtain ⟨hinside, hcanonical⟩ := canonicalText_innermost_settled hs types
  rw [canonicalText_eq_text (typeList types) s, ofText_text (wellFormed_levelsAround hs hinside),
    canonicalText_levelsAround hcanonical]

end TypeShape

/-! ## Parameters -/

namespace Parameter

theorem canonicalType_eq_append_levels (p : Parameter) :
    p.canonicalType = p.innermost.canonicalType ++ TypeText.levels p.typeText := by
  rw [canonicalType_eq, canonicalType_eq, shape_innermost, components_innermost]
  exact TypeShape.canonicalText_ofChars _ _

theorem canonicalType_innermost (p : Parameter) :
    p.innermost.canonicalType =
      if TypeText.innermost p.typeText = "tuple" then tupleSignature p.components
      else canonicalElementary (TypeText.innermost p.typeText) := by
  have hplain : TypeText.lastLevel? (TypeText.innermost p.typeText).toList = none := by
    rw [TypeText.toList_innermost]
    exact TypeText.lastLevel?_innermostOf _
  have hshape : p.innermost.shape =
      if TypeText.innermost p.typeText = "tuple" then .tuple
      else .elementary (TypeText.innermost p.typeText) :=
    TypeShape.ofText_of_none hplain
  rw [canonicalType_eq, hshape, components_innermost]
  split <;> rfl

/-! ## The statement -/

/-- A canonical type is that of the innermost parameter with the array levels behind it as they are
written. Inside the levels it is the list of the components' types for a tuple and the full name for
any other type. A parameter that has a canonical type for its type text has it for its canonical
type, with components or without. -/
theorem canonical_types_are_projections (p : Parameter) :
    p.canonicalType = p.innermost.canonicalType ++ TypeText.levels p.typeText ∧
    p.innermost.canonicalType =
      (if TypeText.innermost p.typeText = "tuple" then tupleSignature p.components
        else canonicalElementary (TypeText.innermost p.typeText)) ∧
    ∀ q : Parameter, { q with typeText := p.canonicalType }.canonicalType = p.canonicalType := by
  refine ⟨p.canonicalType_eq_append_levels, p.canonicalType_innermost, fun q => ?_⟩
  rw [canonicalType_eq, canonicalType_eq]
  exact TypeShape.canonicalText_canonicalText (TypeShape.wellFormed_ofText _) _ _

/-- A tuple with a shorthand and with a level that nothing closes. -/
example :
    let p : Parameter :=
      { typeText := "tuple[a]b][]", components := [{ typeText := "uint[2]" }, { typeText := "x[" }] }
    p.canonicalType = "(uint256[2],x[)[a]b][]" ∧
      ({ typeText := "(uint256[2],x[)[a]b][]" } : Parameter).canonicalType =
        "(uint256[2],x[)[a]b][]" := by
  decide +kernel

end Parameter
end AbiBindings
