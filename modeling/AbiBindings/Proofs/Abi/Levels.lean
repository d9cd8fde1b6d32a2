import AbiBindings.Abi.Signature
import Mathlib.Tactic.SplitIfs

/-! # Array levels of texts, shapes and parameters

A type text loses its array levels one by one: `TypeText.base` takes the last one and
`TypeText.innermost` all of them, and the shape of what is left is the element or the innermost
part of the shape. A parameter, its element and its innermost parameter hold the same tuple.

`Parameter.induction` is the induction that every proof over nested components uses, and
`canonicalTypes_eq_map` turns the list recursion of canonical types into a `map`. -/

namespace AbiBindings
set_option autoImplicit false

/-! ## Texts -/

namespace TypeText

theorem innermostOf_of_some {s element size : List Char} (h : lastLevel? s = some (element, size)) :
    innermostOf s = innermostOf element := by
  rw [innermostOf]
  split
  · rename_i e z he
    obtain ⟨rfl, -⟩ : e = element ∧ z = size := by simpa [he] using h
    rfl
  · rename_i hn
    simp [hn] at h

theorem innermostOf_of_none {s : List Char} (h : lastLevel? s = none) : innermostOf s = s := by
  rw [innermostOf]
  split
  · rename_i he
    simp [he] at h
  · rfl

theorem lastLevel?_innermostOf (s : List Char) : lastLevel? (innermostOf s) = none := by
  fun_induction innermostOf s with
  | case1 s element size h ih => exact ih
  | case2 s h => exact h

theorem innermostOf_innermostOf (s : List Char) : innermostOf (innermostOf s) = innermostOf s :=
  innermostOf_of_none (lastLevel?_innermostOf s)

theorem length_innermostOf_le (s : List Char) : (innermostOf s).length ≤ s.length := by
  fun_induction innermostOf s with
  | case1 s element size h ih =>
    have hlt := length_lt_of_lastLevel? h
    omega
  | case2 s h => exact Nat.le_refl _

theorem depthOf_of_some {s element size : List Char} (h : lastLevel? s = some (element, size)) :
    depthOf s = depthOf element + 1 := by
  rw [depthOf]
  split
  · rename_i e z he
    obtain ⟨rfl, -⟩ : e = element ∧ z = size := by simpa [he] using h
    rfl
  · rename_i hn
    simp [hn] at h

theorem depthOf_of_none {s : List Char} (h : lastLevel? s = none) : depthOf s = 0 := by
  rw [depthOf]
  split
  · rename_i he
    simp [he] at h
  · rfl

/-- The levels of a text are those of its element, followed by the last one. -/
theorem levels_of_some {s element size : List Char} (h : lastLevel? s = some (element, size)) :
    s.drop (innermostOf s).length =
      element.drop (innermostOf element).length ++ ('[' :: size ++ [']']) := by
  have hle := length_innermostOf_le element
  have hs : s = element ++ ('[' :: size ++ [']']) := by
    rw [eq_of_lastLevel? h]
    simp
  rw [innermostOf_of_some h]
  conv => lhs; rw [hs]
  rw [List.drop_append_of_le_length hle]

theorem innermostOf_base (t : String) : innermostOf (base t).toList = innermostOf t.toList := by
  rw [base]
  split
  · rename_i element size h
    rw [String.toList_ofList, innermostOf_of_some h]
  · rfl

end TypeText

/-! ## Shapes -/

namespace TypeShape

theorem ofChars_of_some {s element size : List Char}
    (h : TypeText.lastLevel? s = some (element, size)) :
    ofChars s = array (ofChars element)
      (if size.isEmpty then none else some (String.ofList size)) := by
  rw [ofChars]
  split
  · rename_i e z he
    obtain ⟨rfl, rfl⟩ : e = element ∧ z = size := by simpa [he] using h
    rfl
  · rename_i hn
    simp [hn] at h

theorem ofChars_of_none {s : List Char} (h : TypeText.lastLevel? s = none) :
    ofChars s = if s = tupleText.toList then tuple else elementary (String.ofList s) := by
  rw [ofChars]
  split
  · rename_i he
    simp [he] at h
  · rfl

theorem isTuple_ofChars_innermostOf (s : List Char) :
    (ofChars (TypeText.innermostOf s)).isTuple = (ofChars s).isTuple := by
  fun_induction TypeText.innermostOf s with
  | case1 s element size h ih => rw [ih, ofChars_of_some h, isTuple]
  | case2 s h => rfl

theorem innermost_ofChars (s : List Char) :
    (ofChars s).innermost = ofChars (TypeText.innermostOf s) := by
  fun_induction TypeText.innermostOf s with
  | case1 s element size h ih => rw [ofChars_of_some h, innermost, ih]
  | case2 s h =>
    rw [ofChars_of_none h]
    split <;> rfl

theorem depth_ofChars (s : List Char) : (ofChars s).depth = TypeText.depthOf s := by
  fun_induction TypeText.innermostOf s with
  | case1 s element size h ih => rw [ofChars_of_some h, depth, ih, TypeText.depthOf_of_some h]
  | case2 s h =>
    rw [ofChars_of_none h, TypeText.depthOf_of_none h]
    split <;> rfl

/-- A canonical text ends with the array levels as they are written. -/
theorem canonicalText_ofChars (tupleList : String) (s : List Char) :
    (ofChars s).canonicalText tupleList =
      (ofChars s).innermost.canonicalText tupleList
        ++ String.ofList (s.drop (TypeText.innermostOf s).length) := by
  induction s using TypeText.innermostOf.induct with
  | case1 s element size h ih =>
    have hlevel : levelText (if size.isEmpty then none else some (String.ofList size)) =
        String.ofList ('[' :: size ++ [']']) := by
      rw [← String.toList_inj, levelText, String.toList_append, String.toList_append]
      cases size <;> simp
    rw [ofChars_of_some h, canonicalText, ih, innermost, hlevel, String.append_assoc,
      ← String.ofList_append, ← TypeText.levels_of_some h]
  | case2 s h =>
    rw [ofChars_of_none h, TypeText.innermostOf_of_none h, List.drop_length]
    split <;> simp [innermost]

theorem canonicalText_of_not_isTuple {s : TypeShape} (h : s.isTuple = false) (t u : String) :
    s.canonicalText t = s.canonicalText u := by
  induction s with
  | elementary name => rfl
  | tuple => simp [isTuple] at h
  | array element size ih => rw [canonicalText, canonicalText, ih h]

/-- One element of an array; a shape that is no array is its own element. -/
def element : TypeShape → TypeShape
  | array element _ => element
  | s => s

theorem innermost_eq (s : TypeShape) :
    s.innermost = tuple ∧ s.isTuple = true ∨
      ∃ name, s.innermost = elementary name ∧ s.isTuple = false := by
  induction s with
  | elementary name => exact .inr ⟨name, rfl, rfl⟩
  | tuple => exact .inl ⟨rfl, rfl⟩
  | array element size ih => exact ih

end TypeShape

/-! ## Elementary names -/

theorem canonicalElementary_cases (name : String) :
    canonicalElementary name = name ∨ canonicalElementary name ∈
      ["uint256", "int256", "fixed128x18", "ufixed128x18", "bytes1"] := by
  unfold canonicalElementary
  split_ifs <;> simp

/-! ## Parameters -/

/-- Induction over a parameter and its components, however deep. -/
theorem Parameter.induction {motive : Parameter → Prop}
    (step : ∀ p : Parameter, (∀ q ∈ p.components, motive q) → motive p) (p : Parameter) :
    motive p := by
  refine Parameter.rec (motive_1 := motive) (motive_2 := fun ps => ∀ q ∈ ps, motive q)
    ?_ ?_ ?_ p
  · intro name typeText internalType components indexed ih
    exact step _ ih
  · intro q hq
    simp at hq
  · intro head tail hhead htail q hq
    rcases List.mem_cons.mp hq with rfl | hq
    · exact hhead
    · exact htail q hq

theorem canonicalTypes_eq_map (ps : List Parameter) :
    canonicalTypes ps = ps.map Parameter.canonicalType := by
  induction ps with
  | nil => rfl
  | cons p rest ih => rw [canonicalTypes, ih, List.map_cons]

namespace Parameter

theorem canonicalType_eq (p : Parameter) :
    p.canonicalType = p.shape.canonicalText (tupleSignature p.components) := by
  cases p
  rfl

@[simp] theorem components_element (p : Parameter) : p.element.components = p.components := by
  rw [element]
  split <;> rfl

@[simp] theorem components_innermost (p : Parameter) : p.innermost.components = p.components :=
  rfl

@[simp] theorem isTuple_innermost (p : Parameter) : p.innermost.isTuple = p.isTuple := by
  simp only [isTuple, shape, innermost, TypeShape.ofText, TypeText.innermost, String.toList_ofList]
  exact TypeShape.isTuple_ofChars_innermostOf _

@[simp] theorem isTuple_element (p : Parameter) : p.element.isTuple = p.isTuple := by
  rw [element]
  split
  · simp only [isTuple, shape, TypeShape.ofText, TypeText.base]
    split
    · rename_i element size h
      rw [TypeShape.ofChars_of_some h, String.toList_ofList, TypeShape.isTuple]
    · rfl
  · rfl

theorem shape_of_plain {p : Parameter} (ha : p.isArray = false)
    (ht : p.isTuple = false) : p.shape = .elementary p.typeText := by
  rw [isArray, shape, TypeShape.ofText] at ha
  rw [isTuple, shape, TypeShape.ofText] at ht
  rw [shape, TypeShape.ofText]
  cases hlevel : TypeText.lastLevel? p.typeText.toList with
  | some level =>
    rw [TypeShape.ofChars_of_some hlevel] at ha
    simp [TypeShape.isArray] at ha
  | none =>
    rw [TypeShape.ofChars_of_none hlevel] at ht ⊢
    split at ht
    · simp [TypeShape.isTuple] at ht
    · rename_i hname
      rw [if_neg hname, String.ofList_toList]

theorem depth_shape (p : Parameter) : p.shape.depth = TypeText.depth p.typeText :=
  TypeShape.depth_ofChars _

theorem shape_innermost (p : Parameter) : p.innermost.shape = p.shape.innermost := by
  rw [shape, shape, innermost, TypeShape.ofText, TypeShape.ofText, TypeText.innermost,
    String.toList_ofList, TypeShape.innermost_ofChars]

theorem isArray_innermost (p : Parameter) : p.innermost.isArray = false := by
  rw [isArray, shape_innermost]
  rcases p.shape.innermost_eq with ⟨h, -⟩ | ⟨name, h, -⟩ <;> rw [h] <;> rfl

theorem shape_element (p : Parameter) : p.element.shape = p.shape.element := by
  cases h : TypeText.lastLevel? p.typeText.toList with
  | some level =>
    have hshape := TypeShape.ofChars_of_some h
    have harray : p.isArray = true := by
      rw [isArray, shape, TypeShape.ofText, hshape]
      rfl
    rw [element, if_pos harray]
    simp only [shape, TypeShape.ofText, hshape, TypeText.base, h, String.toList_ofList]
    rfl
  | none =>
    have hshape := TypeShape.ofChars_of_none h
    have hplain : p.isArray = false ∧ p.shape.element = p.shape := by
      rw [isArray, shape, TypeShape.ofText, hshape]
      split <;> exact ⟨rfl, rfl⟩
    rw [element, hplain.1, hplain.2]
    rfl

end Parameter
end AbiBindings
