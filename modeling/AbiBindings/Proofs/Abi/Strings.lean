import AbiBindings.Proofs.Abi.Levels

/-! # The strings of an interface

All texts that an interface brings along: names, types and internal types, those of components
among them. A property of all strings passes from a parameter to its components and from a type
text to the parts of its shape. -/

namespace AbiBindings
set_option autoImplicit false

mutual

/-- The name, the type and the internal type of a parameter, and the strings of its components. -/
def Parameter.strings : Parameter → List String
  | ⟨name, typeText, internalType, components, _⟩ =>
    name :: typeText :: internalType.toList ++ stringsOfAll components

/-- The strings of several parameters. -/
def stringsOfAll : List Parameter → List String
  | [] => []
  | p :: rest => p.strings ++ stringsOfAll rest

end

/-- The strings of a contract's interface. -/
def Contract.strings (c : Contract) : List String :=
  (c.functions.flatMap fun f => f.name :: stringsOfAll (f.inputs ++ f.outputs))
    ++ c.events.flatMap fun e => e.name :: stringsOfAll e.inputs

theorem stringsOfAll_eq_flatMap (ps : List Parameter) :
    stringsOfAll ps = ps.flatMap Parameter.strings := by
  induction ps with
  | nil => rfl
  | cons p rest ih => rw [stringsOfAll, ih, List.flatMap_cons]

namespace Parameter

theorem strings_eq (p : Parameter) :
    p.strings = p.name :: p.typeText :: p.internalType.toList
      ++ p.components.flatMap Parameter.strings := by
  cases p
  rw [strings, stringsOfAll_eq_flatMap]

theorem name_mem_strings (p : Parameter) : p.name ∈ p.strings := by
  rw [strings_eq]
  exact List.mem_append_left _ List.mem_cons_self

theorem typeText_mem_strings (p : Parameter) : p.typeText ∈ p.strings := by
  rw [strings_eq]
  exact List.mem_append_left _ (List.mem_cons_of_mem _ List.mem_cons_self)

theorem internalType_mem_strings {p : Parameter} {t : String} (h : p.internalType = some t) :
    t ∈ p.strings := by
  rw [strings_eq, h]
  exact List.mem_append_left _ (List.mem_cons_of_mem _ (List.mem_cons_of_mem _ List.mem_cons_self))

theorem strings_subset_of_mem_components {p q : Parameter} (h : q ∈ p.components) :
    q.strings ⊆ p.strings := by
  intro t ht
  rw [strings_eq]
  exact List.mem_append_right _ (List.mem_flatMap.mpr ⟨q, h, ht⟩)

end Parameter

namespace Contract

variable {c : Contract}

theorem functionName_mem_strings {f : ContractFunction} (hf : f ∈ c.functions) :
    f.name ∈ c.strings :=
  List.mem_append_left _ (List.mem_flatMap.mpr ⟨f, hf, List.mem_cons_self⟩)

theorem eventName_mem_strings {e : ContractEvent} (he : e ∈ c.events) : e.name ∈ c.strings :=
  List.mem_append_right _ (List.mem_flatMap.mpr ⟨e, he, List.mem_cons_self⟩)

theorem strings_subset_of_mem_function {f : ContractFunction} (hf : f ∈ c.functions)
    {p : Parameter} (hp : p ∈ f.inputs ++ f.outputs) : p.strings ⊆ c.strings := by
  intro t ht
  refine List.mem_append_left _ (List.mem_flatMap.mpr ⟨f, hf, List.mem_cons_of_mem _ ?_⟩)
  rw [stringsOfAll_eq_flatMap]
  exact List.mem_flatMap.mpr ⟨p, hp, ht⟩

theorem strings_subset_of_mem_event {e : ContractEvent} (he : e ∈ c.events) {p : Parameter}
    (hp : p ∈ e.inputs) : p.strings ⊆ c.strings := by
  intro t ht
  refine List.mem_append_right _ (List.mem_flatMap.mpr ⟨e, he, List.mem_cons_of_mem _ ?_⟩)
  rw [stringsOfAll_eq_flatMap]
  exact List.mem_flatMap.mpr ⟨p, hp, ht⟩

end Contract

/-! ## Parts of a type text -/

/-- A property of the elementary name and of the written sizes of a shape. -/
def TypeShape.All (P : String → Prop) : TypeShape → Prop
  | elementary name => P name
  | tuple => True
  | array element size => element.All P ∧ ∀ s ∈ size, P s

/-- The parts of a type text are pieces of it. -/
theorem TypeShape.all_ofChars {P : String → Prop} {s : List Char}
    (h : ∀ t : String, t.toList <:+: s → P t) : (TypeShape.ofChars s).All P := by
  fun_induction TypeText.innermostOf s with
  | case1 s element size hs ih =>
    have heq := TypeText.eq_of_lastLevel? hs
    rw [TypeShape.ofChars_of_some hs]
    refine ⟨ih fun t ht => h t (ht.trans ?_), fun t ht => h t ?_⟩
    · exact ⟨[], '[' :: size ++ [']'], by simp [heq]⟩
    · split at ht
      · simp at ht
      · obtain rfl : String.ofList size = t := by simpa using ht
        exact ⟨element ++ ['['], [']'], by simp [heq]⟩
  | case2 s hs =>
    rw [TypeShape.ofChars_of_none hs]
    split
    · trivial
    · exact h _ (by simp)

end AbiBindings
