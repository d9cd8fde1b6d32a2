import AbiBindings.Emit.Decoding
import AbiBindings.Emit.Encoding
import AbiBindings.Proofs.Abi.ElementaryNames
import AbiBindings.Proofs.Struct.Fitting
import Mathlib.Logic.Function.Iterate

/-! # The texts of decodings and encodings

A decoding and an encoding nest one function for each array level of a parameter
(`decoding_eq_foldr`, `encoding_eq_foldr`). What a level carries belongs to the parameter without
the levels outside, so both are written from the name and the type of the parameter alone:
`decodedText` and `encodedText` are folds of what one level adds to the text of the levels inside,
and the expressions are written like them (`text_decode`, `text_encode`). -/

namespace AbiBindings
set_option autoImplicit false

/-! ## What is to be written -/

/-- What a level takes apart: the given expression first, then the variable of the level before. -/
def levelSource (outer : String) (item : Nat → String) : Nat → String
  | 0 => outer
  | k + 1 => item k

/-- The text that reads a value of the named type, which is no array. -/
def StructRegistry.conversionText (r : StructRegistry) (typeName value : String) : String :=
  if typeName = "BigInt" ∨ typeName = "Address" then typeName ++ ".fromString(" ++ value ++ ")"
  else if typeName = "Bytes" then "Bytes.fromHexString(" ++ value ++ ")"
  else if typeName = "i8" ∨ typeName = "u8" then typeName ++ ".parse(" ++ value ++ ")"
  else if typeName = "bool" then "u8.parse(" ++ value ++ ") as bool"
  else if typeName ∈ r.definitions.map StructDefinition.className then
    typeName ++ ".parse(" ++ value ++ ")"
  else value

/-- The text that reads a parameter's value: every level splits what it takes apart and reads the
items as the parameter without the levels up to there, and inside the innermost type is read. -/
def StructRegistry.decodedText (r : StructRegistry) (p : Parameter) (access : String) : String :=
  let depth := TypeText.depth p.typeText
  let item (k : Nat) : String := "item" ++ toString k
  (List.range depth).foldr
    (fun k inner =>
      levelSource access item k ++ " === '' ? [] : parseCSVNotNullable("
        ++ levelSource access item k ++ ").map<"
        ++ (r.valueType (Parameter.element^[k + 1] p)).text ++ ">((" ++ item k ++ ": string) => "
        ++ inner ++ ")")
    (r.conversionText (r.valueType p.innermost).text (levelSource access item depth))

/-- The text that hands a value of an elementary type over, given the canonical name of the type. -/
def handedText (typeName value : String) : String :=
  if typeName = "bool" then "Bytes.fromBool(" ++ value ++ ")"
  else if typeName = "int8" then "BigInt.fromI8(" ++ value ++ ")"
  else if typeName = "uint8" then "BigInt.fromU8(" ++ value ++ ")"
  else if typeName = "string" then "Bytes.fromUTF8(" ++ value ++ ")"
  else value

/-- The text that encodes a parameter's value: every level hands its items over under the canonical
type of the parameter without the levels outside, in which `()` stands for a struct, and inside a
struct lists its own components and any other value is handed over by itself. -/
def Parameter.encodedText (p : Parameter) (value : String) : String :=
  let depth := TypeText.depth p.typeText
  let item (k : Nat) : String := "s" ++ toString k
  let inside := levelSource value item depth
  (List.range depth).foldr
    (fun k inner =>
      let q := Parameter.element^[k] p
      "EvmEncodeParam.fromValues('"
        ++ (if p.isTuple then "()" ++ TypeText.levels q.typeText else q.canonicalType) ++ "', "
        ++ levelSource value item k ++ ".map<EvmEncodeParam>((" ++ item k ++ ") => " ++ inner
        ++ "))")
    (if p.isTuple then "EvmEncodeParam.fromValues('()', " ++ inside ++ ".toEvmEncodeParams())"
      else "EvmEncodeParam.fromValue('" ++ p.innermost.canonicalType ++ "', "
        ++ handedText p.innermost.canonicalType inside ++ ")")

/-! ## Parameters without their outer levels -/

/-- What one step keeps, any number of steps keeps. -/
theorem apply_iterate_of_step {α β : Type} {g : α → β} {step : α → α} (h : ∀ a, g (step a) = g a)
    (k : Nat) (a : α) : g (step^[k] a) = g a := by
  induction k generalizing a with
  | zero => rfl
  | succ k ih => rw [Function.iterate_succ_apply, ih, h]

namespace TypeShape

theorem innermost_element (s : TypeShape) : s.element.innermost = s.innermost := by
  cases s <;> rfl

theorem depth_element (s : TypeShape) : s.element.depth = s.depth - 1 := by
  cases s <;> rfl

theorem innermost_iterate_element (k : Nat) (s : TypeShape) :
    (element^[k] s).innermost = s.innermost :=
  apply_iterate_of_step innermost_element k s

theorem depth_iterate_element (k : Nat) (s : TypeShape) :
    (element^[k] s).depth = s.depth - k := by
  induction k generalizing s with
  | zero => rfl
  | succ k ih =>
    rw [Function.iterate_succ_apply, ih, depth_element]
    omega

end TypeShape

theorem Parameter.shape_iterate_element (k : Nat) (p : Parameter) :
    (Parameter.element^[k] p).shape = TypeShape.element^[k] p.shape :=
  Function.Semiconj.iterate_right Parameter.shape_element k p

theorem Parameter.isTuple_iterate_element (k : Nat) (p : Parameter) :
    (Parameter.element^[k] p).isTuple = p.isTuple :=
  apply_iterate_of_step Parameter.isTuple_element k p

/-! ## Types -/

theorem markedName_zero (name : String) : markedName name 0 = name := by
  rw [markedName, List.replicate_zero, String.intercalate_nil, String.append_empty]

theorem ValueType.text_ofBase (base : ValueBase) : text { base } = base.name := by
  rw [text, markedName_zero]

namespace StructRegistry

theorem find?_iterate_element (r : StructRegistry) (k : Nat) (p : Parameter) :
    r.find? (Parameter.element^[k] p) = r.find? p :=
  apply_iterate_of_step r.find?_element k p

/-- The name inside all levels depends on the innermost shape and on the look-up. -/
theorem name_valueBase_congr {r : StructRegistry} {p q : Parameter}
    (hshape : q.shape.innermost = p.shape.innermost) (hfind : r.find? q = r.find? p) :
    (r.valueBase q).name = (r.valueBase p).name := by
  unfold valueBase
  rw [hshape, classFor?, classFor?, hfind]
  split
  · rfl
  · cases r.find? p <;> rfl

theorem text_valueType (r : StructRegistry) (p : Parameter) :
    (r.valueType p).text = markedName (r.valueBase p).name p.shape.depth :=
  rfl

theorem text_valueType_iterate_element (r : StructRegistry) (k : Nat) (p : Parameter) :
    (r.valueType (Parameter.element^[k] p)).text =
      markedName (r.valueBase p).name (p.shape.depth - k) := by
  have hshape := Parameter.shape_iterate_element k p
  rw [text_valueType, name_valueBase_congr ?_ (r.find?_iterate_element k p), hshape,
    TypeShape.depth_iterate_element]
  rw [hshape, TypeShape.innermost_iterate_element]

theorem text_valueType_innermost (r : StructRegistry) (p : Parameter) :
    (r.valueType p.innermost).text = (r.valueBase p).name := by
  have hinner : p.shape.innermost.innermost = p.shape.innermost ∧ p.shape.innermost.depth = 0 := by
    rcases p.shape.innermost_eq with ⟨h, -⟩ | ⟨name, h, -⟩ <;> rw [h] <;> exact ⟨rfl, rfl⟩
  rw [text_valueType, name_valueBase_congr ?_ (r.find?_innermost p), Parameter.shape_innermost,
    hinner.2, markedName_zero]
  rw [Parameter.shape_innermost, hinner.1]

end StructRegistry

/-! ## Levels of expressions -/

theorem levelSource_shift (outer : String) (item : Nat → String) (level k : Nat) :
    levelSource (item level) (fun j => item (level + 1 + j)) k =
      levelSource outer (fun j => item (level + j)) (k + 1) := by
  cases k with
  | zero => rfl
  | succ k => exact congrArg item (by omega)

theorem StructRegistry.decoding_eq_foldr (r : StructRegistry) (name : String) (depth : Nat)
    (access : String) (level : Nat) :
    r.decoding name depth access level =
      (List.range depth).foldr
        (fun k inner => .each (levelSource access (fun j => Decoding.itemName (level + j)) k)
          (markedName name (depth - (k + 1))) (Decoding.itemName (level + k)) inner)
        (.value (r.conversion name)
          (levelSource access (fun j => Decoding.itemName (level + j)) depth)) := by
  induction depth generalizing access level with
  | zero => rfl
  | succ depth ih =>
    rw [decoding, ih, List.range_succ_eq_map, List.foldr_cons, List.foldr_map]
    simp only [levelSource_shift access Decoding.itemName level]
    simp only [Nat.succ_eq_add_one, Nat.add_sub_add_right, Nat.add_right_comm level 1,
      Nat.add_assoc level]
    rfl

theorem TypeShape.encoding_eq_foldr (s : TypeShape) (value : String) (level : Nat) :
    s.encoding value level =
      (List.range s.depth).foldr
        (fun k inner => .each ((element^[k] s).canonicalText Encoding.tupleSignature)
          (levelSource value (fun j => Encoding.itemName (level + j)) k)
          (Encoding.itemName (level + k)) inner)
        (s.innermost.encoding (levelSource value (fun j => Encoding.itemName (level + j)) s.depth)
          (level + s.depth)) := by
  induction s generalizing value level with
  | elementary name => rfl
  | tuple => rfl
  | array s size ih =>
    rw [encoding, ih, depth, List.range_succ_eq_map, List.foldr_cons, List.foldr_map]
    simp only [levelSource_shift value Encoding.itemName level]
    simp only [Nat.succ_eq_add_one, Function.iterate_succ_apply, Nat.add_right_comm level 1,
      Nat.add_assoc level]
    rfl

/-- The signature of a level: `()` stands for a tuple, and array levels are as they are written. -/
theorem Parameter.canonicalText_shape (p : Parameter) :
    p.shape.canonicalText Encoding.tupleSignature =
      if p.isTuple then "()" ++ TypeText.levels p.typeText else p.canonicalType := by
  have hinner : p.shape.innermost = .tuple ∨ p.isTuple = false := by
    rcases p.shape.innermost_eq with ⟨h, -⟩ | ⟨name, -, h⟩
    · exact .inl h
    · exact .inr h
  by_cases ht : p.isTuple = true
  · have htuple : p.shape.innermost = .tuple := hinner.resolve_right (by simp [ht])
    rw [if_pos ht, shape, TypeShape.ofText, TypeShape.canonicalText_ofChars]
    rw [shape, TypeShape.ofText] at htuple
    rw [htuple]
    rfl
  · have hplain : p.isTuple = false := by simpa using ht
    rw [if_neg ht, canonicalType_eq]
    exact TypeShape.canonicalText_of_not_isTuple hplain _ _

theorem Parameter.canonicalText_iterate_element (k : Nat) (p : Parameter) :
    (TypeShape.element^[k] p.shape).canonicalText Encoding.tupleSignature =
      if p.isTuple then "()" ++ TypeText.levels (Parameter.element^[k] p).typeText
      else (Parameter.element^[k] p).canonicalType := by
  rw [← shape_iterate_element, canonicalText_shape, isTuple_iterate_element]

theorem Parameter.encoding_innermost (p : Parameter) (value : String) (level : Nat) :
    p.shape.innermost.encoding value level =
      if p.isTuple then .struct value else .single p.innermost.typeText value := by
  by_cases ht : p.isTuple = true
  · have htuple : p.shape.innermost = .tuple := by
      rcases p.shape.innermost_eq with ⟨h, -⟩ | ⟨name, -, h⟩
      · exact h
      · exact absurd ht (by simp [isTuple, h])
    rw [if_pos ht, htuple]
    rfl
  · have hplain : p.innermost.shape = .elementary p.innermost.typeText :=
      shape_of_plain p.isArray_innermost (by simpa using ht)
    rw [if_neg ht, ← shape_innermost, hplain]
    rfl

/-! ## Texts -/

theorem StructRegistry.text_conversion (r : StructRegistry) (typeName value : String) :
    (r.conversion typeName).text value = r.conversionText typeName value := by
  have hclass : (r.isClass typeName = true) =
      (typeName ∈ r.definitions.map StructDefinition.className) := by
    simp [isClass]
  simp only [conversion, conversionText, hclass]
  split_ifs <;> rfl

namespace Encoding

theorem form_eq (typeName : String) :
    form typeName =
      if canonicalElementary typeName = "bool" then .fromBool
      else if canonicalElementary typeName = "int8" then .fromInt8
      else if canonicalElementary typeName = "uint8" then .fromUint8
      else if canonicalElementary typeName = "string" then .fromText
      else .asIs := by
  by_cases hfixed : typeName ∈ ElementaryType.fixedNames
  · revert typeName
    decide
  · -- any other name that is known has a width, and bytes and big integers are the library's own
    have hform : form typeName = .asIs := by
      rw [form]
      cases htype : ElementaryType.ofText? typeName with
      | none => rfl
      | some t =>
        obtain ⟨w, n, -, ⟨-, rfl, -⟩ | ⟨-, -, -, -, rfl, -⟩⟩ :=
          ElementaryType.exists_width_of_ofText? hfixed htype
        · rfl
        · rfl
    simp only [ElementaryType.fixedNames, List.mem_cons, List.not_mem_nil, or_false,
      not_or] at hfixed
    simp only [hform, canonicalElementary, hfixed, if_false]

theorem text_form (typeName value : String) :
    (form typeName).text value = handedText (canonicalElementary typeName) value := by
  rw [form_eq, handedText]
  split_ifs <;> rfl

theorem text_single (typeName value : String) :
    (single typeName value).text =
      "EvmEncodeParam.fromValue('" ++ canonicalElementary typeName ++ "', "
        ++ handedText (canonicalElementary typeName) value ++ ")" := by
  rw [← text_form]
  rfl

theorem text_foldr_each (levels : List Nat) (signature value item : Nat → String)
    (inside : Encoding) :
    (levels.foldr (fun k inner => .each (signature k) (value k) (item k) inner) inside).text =
      levels.foldr
        (fun k inner => "EvmEncodeParam.fromValues('" ++ signature k ++ "', " ++ value k
          ++ ".map<EvmEncodeParam>((" ++ item k ++ ") => " ++ inner ++ "))") inside.text :=
  (List.foldr_hom text fun _ _ => rfl).symm

end Encoding

theorem Decoding.text_foldr_each (levels : List Nat) (source elementType item : Nat → String)
    (inside : Decoding) :
    (levels.foldr (fun k inner => .each (source k) (elementType k) (item k) inner) inside).text =
      levels.foldr
        (fun k inner => source k ++ " === '' ? [] : parseCSVNotNullable(" ++ source k ++ ").map<"
          ++ elementType k ++ ">((" ++ item k ++ ": string) => " ++ inner ++ ")") inside.text :=
  (List.foldr_hom text fun _ _ => rfl).symm

/-- A value is read as its parameter's name and type say. -/
theorem StructRegistry.text_decode (r : StructRegistry) (p : Parameter) (access : String) :
    (r.decode (r.valueType p) access).text = r.decodedText p access := by
  have hname : (r.valueType p).base.name = (r.valueType p.innermost).text :=
    (r.text_valueType_innermost p).symm
  have hdepth : (r.valueType p).depth = TypeText.depth p.typeText := p.depth_shape
  have hinside (value : String) :
      (Decoding.value (r.conversion (r.valueType p.innermost).text) value).text =
        r.conversionText (r.valueType p.innermost).text value :=
    r.text_conversion _ value
  rw [decode, decoding_eq_foldr, Decoding.text_foldr_each, hname, hdepth, hinside, decodedText]
  simp only [Nat.zero_add, text_valueType_iterate_element, text_valueType_innermost, p.depth_shape,
    Decoding.itemName]

theorem StructRegistry.text_decode_ofBase (r : StructRegistry) (base : ValueBase)
    (access : String) :
    (r.decode { base } access).text = r.conversionText (ValueType.text { base }) access := by
  rw [ValueType.text_ofBase, ← text_conversion]
  rfl

theorem Parameter.text_encode_innermost (p : Parameter) (value : String) :
    (p.innermost.encode value).text =
      if p.isTuple then "EvmEncodeParam.fromValues('()', " ++ value ++ ".toEvmEncodeParams())"
      else "EvmEncodeParam.fromValue('" ++ p.innermost.canonicalType ++ "', "
        ++ handedText p.innermost.canonicalType value ++ ")" := by
  rw [encode, shape_innermost, encoding_innermost]
  by_cases ht : p.isTuple = true
  · rw [if_pos ht, if_pos ht]
    rfl
  · have hplain : p.innermost.shape = .elementary p.innermost.typeText :=
      shape_of_plain p.isArray_innermost (by simpa using ht)
    have hcanonical : p.innermost.canonicalType = canonicalElementary p.innermost.typeText := by
      rw [canonicalType_eq, hplain, TypeShape.canonicalText]
    rw [if_neg ht, if_neg ht, Encoding.text_single, hcanonical]

/-- A value is handed over as its parameter's type says. -/
theorem Parameter.text_encode (p : Parameter) (value : String) :
    (p.encode value).text = p.encodedText value := by
  have hinside (value : String) (level : Nat) :
      (p.shape.innermost.encoding value level).text =
        if p.isTuple then "EvmEncodeParam.fromValues('()', " ++ value ++ ".toEvmEncodeParams())"
        else "EvmEncodeParam.fromValue('" ++ p.innermost.canonicalType ++ "', "
          ++ handedText p.innermost.canonicalType value ++ ")" := by
    rw [← text_encode_innermost, encode, shape_innermost, encoding_innermost, encoding_innermost]
  rw [encode, TypeShape.encoding_eq_foldr, Encoding.text_foldr_each, hinside, p.depth_shape,
    encodedText]
  simp only [Nat.zero_add, Encoding.itemName, canonicalText_iterate_element]

end AbiBindings
