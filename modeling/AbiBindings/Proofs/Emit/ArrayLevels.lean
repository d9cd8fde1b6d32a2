import AbiBindings.Proofs.Emit.ExpressionTexts
import AbiBindings.Proofs.Emit.Mentions
import AbiBindings.Proofs.Emit.NamedTypes
import AbiBindings.Proofs.Struct.DeclaredNames
import AbiBindings.Proofs.Struct.Distinct

/-! # Array levels of types, decodings and encodings

The depth of an array is kept in three ways: as the levels of the ABI type, as the marks behind the
name of the emitted type, and as the nested functions that take an array apart. They stay in step
for every type text. The marks can be read off the name again, since no struct class has a bracket
in its name (`StructRegistry.bracketFree_name_valueBase`, `unmarkedName_markedName`). What each
level of a decoding or of an encoding carries, and is written with, belongs to the parameter
without the levels outside (`array_levels_agree`). -/

namespace AbiBindings
set_option autoImplicit false

/-! ## Names without brackets -/

/-- A text without the characters of array levels. -/
def BracketFree (s : String) : Prop :=
  '[' ∉ s.toList ∧ ']' ∉ s.toList

theorem BracketFree.append {s t : String} (hs : BracketFree s) (ht : BracketFree t) :
    BracketFree (s ++ t) := by
  rw [BracketFree, String.toList_append, List.mem_append, List.mem_append]
  exact ⟨not_or.mpr ⟨hs.1, ht.1⟩, not_or.mpr ⟨hs.2, ht.2⟩⟩

theorem bracketFree_of_forall {P : Char → Bool} (hopen : P '[' = false) (hclose : P ']' = false)
    {s : String} (h : ∀ c ∈ s.toList, P c = true) : BracketFree s := by
  constructor
  · intro hmem
    exact absurd (h _ hmem) (by simp [hopen])
  · intro hmem
    exact absurd (h _ hmem) (by simp [hclose])

theorem keptByEndings_bracketFree : KeptByEndings BracketFree where
  suffix h scope := h.append (by cases scope <;> unfold BracketFree <;> decide)
  number h n := h.append (bracketFree_of_forall rfl rfl fun _ hc => isDigit_of_mem_toString hc)

theorem bracketFree_of_structName? {p : Parameter} {n : String} (h : p.structName? = some n) :
    BracketFree n := by
  obtain ⟨t, s, -, -, hstands⟩ := exists_standsIn_of_structName? h
  have hword : ∀ c ∈ n.toList, Text.isWordChar c = true := fun _ hc => hstands.isWordChar hc
  exact bracketFree_of_forall (by decide +kernel) (by decide +kernel) hword

theorem bracketFree_className {calls : List StructRegistry.Call} {d : StructDefinition}
    (hd : d ∈ (StructRegistry.run calls).definitions) : BracketFree d.className := by
  obtain ⟨p, taken, n, -, rfl⟩ := StructRegistry.of_mem_definitions_run hd
  refine keptByEndings_bracketFree.of_uniqueName ?_ taken
  cases hname : p.structName? with
  | some declared => exact bracketFree_of_structName? hname
  | none =>
    have htuple : BracketFree "Tuple" := by unfold BracketFree; decide
    exact keptByEndings_bracketFree.number htuple n

/-! ## Marks -/

theorem toList_markedName (name : String) (depth : Nat) :
    (markedName name depth).toList =
      name.toList ++ (List.replicate depth ['[', ']']).flatten := by
  rw [markedName, String.toList_append, toList_concat, List.map_replicate]
  rfl

theorem splitMarks_markedName {name : String} (h : BracketFree name) (depth counted : Nat) :
    splitMarks counted (markedName name depth).toList.reverse = (name, counted + depth) := by
  rw [toList_markedName, List.reverse_append]
  induction depth generalizing counted with
  | zero =>
    have hname : ∀ rest, name.toList.reverse ≠ ']' :: '[' :: rest := by
      intro rest hrest
      have hmem : ']' ∈ name.toList := List.mem_reverse.mp (hrest ▸ List.mem_cons_self)
      exact h.2 hmem
    rw [List.replicate_zero, List.flatten_nil, List.reverse_nil, List.nil_append, splitMarks]
    · rw [List.reverse_reverse, String.ofList_toList, Nat.add_zero]
    · exact hname
  | succ depth ih =>
    have hlast : (List.replicate (depth + 1) ['[', ']']).flatten.reverse =
        ']' :: '[' :: (List.replicate depth ['[', ']']).flatten.reverse := by
      rw [List.replicate_succ', List.flatten_append, List.flatten_singleton, List.reverse_append]
      rfl
    rw [hlast, List.cons_append, List.cons_append, splitMarks, ih, Nat.add_assoc, Nat.add_comm 1]

theorem unmarkedName_markedName {name : String} (h : BracketFree name) (depth : Nat) :
    unmarkedName (markedName name depth) = (name, depth) := by
  rw [unmarkedName, splitMarks_markedName h, Nat.zero_add]

namespace StructRegistry

theorem bracketFree_name_valueBase (calls : List Call) (p : Parameter) :
    BracketFree ((run calls).valueBase p).name := by
  cases hbase : (run calls).valueBase p with
  | elementary type => cases type <;> unfold BracketFree <;> decide
  | unknown cause =>
    have hunknown : BracketFree "unknown" := by unfold BracketFree; decide
    exact hunknown
  | struct className =>
    obtain ⟨d, hd, rfl⟩ := exists_definition_of_struct hbase
    exact bracketFree_className hd

end StructRegistry

/-! ## The statement -/

/-- For every registry and every parameter, with as many levels as its type text has: the type is
the bracket-free one inside all levels with one mark a level, which are read off again as they were
put; the decoding consists of one split a level around the conversion of the type inside, and the
encoding of one nested function a level around the encoding of the innermost parameter. Level `k`
takes apart the variable of the level before, the first one the given expression, and carries the
type and the signature of the parameter without the levels outside. Both are written so, too. -/
theorem array_levels_agree (calls : List StructRegistry.Call) (p : Parameter)
    (access value : String) :
    let r := StructRegistry.run calls
    let depth := TypeText.depth p.typeText
    let inside := (r.valueType p.innermost).text
    (r.valueType p).text = inside ++ "".intercalate (List.replicate depth "[]") ∧
    BracketFree inside ∧
    unmarkedName (r.valueType p).text = (inside, depth) ∧
    r.decode (r.valueType p) access = r.decoding inside depth access 0 ∧
    r.decoding inside depth access 0 =
      (List.range depth).foldr
        (fun k inner => .each (levelSource access Decoding.itemName k)
          (r.valueType (Parameter.element^[k + 1] p)).text (Decoding.itemName k) inner)
        (.value (r.conversion inside) (levelSource access Decoding.itemName depth)) ∧
    (r.decode (r.valueType p) access).text = r.decodedText p access ∧
    p.encode value =
      (List.range depth).foldr
        (fun k inner => .each
          (if p.isTuple then "()" ++ TypeText.levels (Parameter.element^[k] p).typeText
            else (Parameter.element^[k] p).canonicalType)
          (levelSource value Encoding.itemName k) (Encoding.itemName k) inner)
        (p.innermost.encode (levelSource value Encoding.itemName depth)) ∧
    (∀ v, p.innermost.encode v =
      if p.isTuple then .struct v else .single p.innermost.typeText v) ∧
    (p.encode value).text = p.encodedText value := by
  intro r depth inside
  have hinside : inside = (r.valueBase p).name := r.text_valueType_innermost p
  have hdepth : p.shape.depth = depth := p.depth_shape
  have hfree : BracketFree inside := hinside ▸ StructRegistry.bracketFree_name_valueBase calls p
  have htext : (r.valueType p).text = markedName inside depth := by
    rw [r.text_valueType, hinside, hdepth]
  have hencode (v : String) : p.innermost.encode v =
      if p.isTuple then .struct v else .single p.innermost.typeText v := by
    rw [Parameter.encode, Parameter.shape_innermost, Parameter.encoding_innermost]
  refine ⟨htext, hfree, ?_, ?_, ?_, r.text_decode p access, ?_, hencode, p.text_encode value⟩
  · rw [htext, unmarkedName_markedName hfree]
  · rw [hinside, ← hdepth]
    rfl
  · rw [r.decoding_eq_foldr]
    simp only [Nat.zero_add, r.text_valueType_iterate_element, ← hinside, hdepth]
  · rw [Parameter.encode, TypeShape.encoding_eq_foldr, Parameter.encoding_innermost, ← hencode,
      hdepth]
    simp only [Nat.zero_add, Parameter.canonicalText_iterate_element]

end AbiBindings
