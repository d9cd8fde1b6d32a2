import AbiBindings.Proofs.Abi.Levels

/-! # Skeletons of types

What a signature says of a type is its skeleton: the sizes of its array levels around a tuple of
skeletons or around the full name of an elementary type. Here are skeletons, and the characters of
a canonical type in the order in which they are read: what is inside all levels, then the levels
(`TypeShape.toList_canonicalText`); a parenthesis, the first type, then the others, a comma before
each (`toList_typeList_cons`). -/

namespace AbiBindings
set_option autoImplicit false

/-! ## Skeletons -/

/-- What a signature tells of a type; sizes are listed from the innermost level on. -/
inductive TypeSkeleton where
  | elementary (name : String) (sizes : List String)
  | tuple (components : List TypeSkeleton) (sizes : List String)

/-- The sizes of the array levels, as they are written. -/
def TypeShape.sizes : TypeShape → List String
  | elementary _ => []
  | tuple => []
  | array element size => element.sizes ++ [size.getD ""]

/-- The skeleton of a shape whose tuple has the given components. -/
def TypeShape.skeleton (components : List TypeSkeleton) (s : TypeShape) : TypeSkeleton :=
  match s.innermost with
  | elementary name => .elementary (canonicalElementary name) s.sizes
  | _ => .tuple components s.sizes

mutual

/-- The skeleton of a parameter's type. -/
def Parameter.skeleton : Parameter → TypeSkeleton
  | ⟨_, typeText, _, components, _⟩ => (TypeShape.ofText typeText).skeleton (skeletons components)

/-- The skeletons of several parameters' types. -/
def skeletons : List Parameter → List TypeSkeleton
  | [] => []
  | p :: rest => p.skeleton :: skeletons rest

end

theorem skeletons_eq_map (ps : List Parameter) : skeletons ps = ps.map Parameter.skeleton := by
  induction ps with
  | nil => rfl
  | cons p rest ih => rw [skeletons, ih, List.map_cons]

namespace Parameter

theorem skeleton_of_tuple {p : Parameter} (h : p.shape.innermost = .tuple) :
    p.skeleton = .tuple (p.components.map skeleton) p.shape.sizes := by
  cases p with
  | mk name typeText internalType components indexed =>
    have h : (TypeShape.ofText typeText).innermost = .tuple := h
    rw [skeleton, TypeShape.skeleton, h, skeletons_eq_map]
    rfl

theorem skeleton_of_elementary {p : Parameter} {m : String}
    (h : p.shape.innermost = .elementary m) :
    p.skeleton = .elementary (canonicalElementary m) p.shape.sizes := by
  cases p with
  | mk name typeText internalType components indexed =>
    have h : (TypeShape.ofText typeText).innermost = .elementary m := h
    rw [skeleton, TypeShape.skeleton, h]
    rfl

end Parameter

/-! ## The characters of a canonical type -/

/-- A character that signatures use to divide what they list. -/
def isMark (c : Char) : Bool :=
  c == '(' || c == ')' || c == ',' || c == '[' || c == ']'

/-- A text without the characters that divide signatures. -/
def MarkFree (s : String) : Prop :=
  ∀ c ∈ s.toList, isMark c = false

/-- Array levels as they are written. -/
def levelChars (sizes : List String) : List Char :=
  sizes.flatMap fun size => '[' :: size.toList ++ [']']

theorem TypeShape.toList_canonicalText (tupleList : String) (s : TypeShape) :
    (s.canonicalText tupleList).toList =
      (s.innermost.canonicalText tupleList).toList ++ levelChars s.sizes := by
  induction s with
  | elementary name => simp [innermost, sizes, levelChars]
  | tuple => simp [innermost, sizes, levelChars]
  | array element size ih =>
    rw [canonicalText, String.toList_append, ih, innermost, sizes]
    simp [levelChars, levelText]

/-- A list of types after its first one, up to the closing parenthesis. -/
def moreChars (types : List String) : List Char :=
  types.flatMap fun t => ',' :: t.toList

theorem toList_intercalate_comma (t : String) (ts : List String) :
    (",".intercalate (t :: ts)).toList = t.toList ++ moreChars ts := by
  induction ts generalizing t with
  | nil => simp [moreChars]
  | cons u us ih =>
    rw [String.intercalate_cons_cons, String.toList_append, ih]
    simp [moreChars]

theorem toList_typeList_nil : (typeList []).toList = ['(', ')'] := by
  decide

theorem toList_typeList_cons (t : String) (ts : List String) :
    (typeList (t :: ts)).toList = '(' :: (t.toList ++ (moreChars ts ++ [')'])) := by
  rw [typeList, String.toList_append, String.toList_append, toList_intercalate_comma]
  simp

end AbiBindings
