import AbiBindings.Proofs.Emit.ArrayLevels
import AbiBindings.Proofs.Emit.Capture

/-! # What expressions hand over and read

An encoding hands one value over under one signature, and a decoding reads one text. The value and
the text are those that were given, and the signature is that of the parameter
(`operand_encode`, `signature_encode`, `access_decode`). Beside the given value an encoding hands
over nothing but the items of arrays (`eq_or_isItemName_of_mem_operands`). -/

namespace AbiBindings
set_option autoImplicit false

namespace Encoding

/-- The value that is handed over. -/
def operand : Encoding → String
  | single _ value => value
  | struct value => value
  | each _ value _ _ => value

/-- The signature that the value is handed over under. -/
def signature : Encoding → String
  | single typeName _ => canonicalElementary typeName
  | struct _ => tupleSignature
  | each signature _ _ _ => signature

/-- All values that are handed over, those inside nested functions among them. -/
def operands : Encoding → List String
  | single _ value => [value]
  | struct value => [value]
  | each _ value _ inner => value :: inner.operands

end Encoding

/-- The text that is read. -/
def Decoding.access : Decoding → String
  | value _ access => access
  | each access _ _ _ => access

@[simp] theorem StructRegistry.access_decode (r : StructRegistry) (t : ValueType)
    (access : String) : (r.decode t access).access = access := by
  rw [decode]
  cases t.depth <;> rfl

namespace Parameter

variable (p : Parameter) (value : String)

@[simp] theorem operand_encode : (p.encode value).operand = value := by
  rw [encode]
  cases p.shape <;> rfl

theorem signature_encode :
    (p.encode value).signature =
      if p.isTuple then "()" ++ TypeText.levels p.typeText else p.canonicalType := by
  rw [← canonicalText_shape, encode]
  cases p.shape <;> rfl

end Parameter

theorem TypeShape.eq_or_isItemName_of_mem_operands {s : TypeShape} {value n : String}
    {level : Nat} (h : n ∈ (s.encoding value level).operands) : n = value ∨ IsItemName n := by
  induction s generalizing value level with
  | elementary name => exact .inl (List.mem_singleton.mp h)
  | tuple => exact .inl (List.mem_singleton.mp h)
  | array element size ih =>
    rcases List.mem_cons.mp h with rfl | h
    · exact .inl rfl
    · rcases ih h with rfl | h
      · exact .inr ⟨level, .inr rfl⟩
      · exact .inr h

end AbiBindings
