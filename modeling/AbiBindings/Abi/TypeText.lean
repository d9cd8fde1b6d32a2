/-!
# Array levels in type texts

The type of an ABI parameter is a text such as `uint256[2][]`: an element type followed by array
levels. The last level is what stands from the last `[` on, provided that the text ends in `]`.
Every text is accepted; one without a level is its own element.
-/

namespace AbiBindings.TypeText

/-- The element type and the size of the last array level, if there is one. -/
def lastLevel? (s : List Char) : Option (List Char × List Char) :=
  match s.reverse with
  | ']' :: rest =>
    match rest.dropWhile (· != '[') with
    | _ :: element => some (element.reverse, (rest.takeWhile (· != '[')).reverse)
    | [] => none
  | _ => none

/-- A text with a last level is its element type followed by the size between brackets. -/
theorem eq_of_lastLevel? {s element size : List Char} (h : lastLevel? s = some (element, size)) :
    s = element ++ '[' :: size ++ [']'] := by
  unfold lastLevel? at h
  split at h
  · rename_i rest hs
    split at h
    · rename_i c tail hrest
      obtain ⟨rfl, rfl⟩ : tail.reverse = element ∧ (rest.takeWhile (· != '[')).reverse = size := by
        simpa using h
      have hc : c = '[' := by
        have := List.head?_dropWhile_not (· != '[') rest
        simpa [hrest] using this
      have hsplit : rest = rest.takeWhile (· != '[') ++ '[' :: tail := by
        conv => lhs; rw [← List.takeWhile_append_dropWhile (p := (· != '[')) (l := rest), hrest, hc]
      have hs' : s = (']' :: rest).reverse := by rw [← hs, List.reverse_reverse]
      rw [hs', List.reverse_cons]
      conv => lhs; rw [hsplit]
      simp
    · simp at h
  · simp at h

/-- The element type is shorter than the text. -/
theorem length_lt_of_lastLevel? {s element size : List Char}
    (h : lastLevel? s = some (element, size)) : element.length < s.length := by
  rw [eq_of_lastLevel? h]
  simp

/-- Whether the text is written like an array: whether it ends in `]`. -/
def endsLikeArray (s : String) : Bool :=
  s.toList.getLast? == some ']'

/-- The text without its last array level. -/
def base (s : String) : String :=
  match lastLevel? s.toList with
  | some (element, _) => String.ofList element
  | none => s

/-- How many array levels the text has. -/
def depthOf (s : List Char) : Nat :=
  match _h : lastLevel? s with
  | some (element, _) => depthOf element + 1
  | none => 0
termination_by s.length
decreasing_by exact length_lt_of_lastLevel? _h

/-- The text without any of its array levels. -/
def innermostOf (s : List Char) : List Char :=
  match _h : lastLevel? s with
  | some (element, _) => innermostOf element
  | none => s
termination_by s.length
decreasing_by exact length_lt_of_lastLevel? _h

/-- How many array levels the text has. -/
def depth (s : String) : Nat :=
  depthOf s.toList

/-- The text without any of its array levels. -/
def innermost (s : String) : String :=
  String.ofList (innermostOf s.toList)

/-- The array levels of the text, as they are written. -/
def levels (s : String) : String :=
  String.ofList (s.toList.drop (innermostOf s.toList).length)

end AbiBindings.TypeText
