/-!
# Paths as texts

A path is kept as the text that was given. Joining and taking the parent work on the text, so that
it is shown as it was written; only walking through a file system gives it a meaning.
-/

namespace AbiBindings.PathText

/-- The segments between slashes; there is always at least one. -/
def segments : List Char → List (List Char)
  | [] => [[]]
  | c :: rest =>
    if c = '/' then [] :: segments rest
    else
      match segments rest with
      | first :: more => (c :: first) :: more
      | [] => [[c]]

/-- Segments with slashes between them. -/
def joinSegments : List (List Char) → List Char
  | [] => []
  | [s] => s
  | s :: rest => s ++ '/' :: joinSegments rest

/-- Whether a path begins at the root. -/
def isAbsolute (s : String) : Bool :=
  s.toList.head? == some '/'

/-- A path taken from a base: an absolute one stands for itself, any other is put behind the base
with one slash between them. -/
def join (base path : String) : String :=
  if isAbsolute path then path
  else if base.isEmpty || base.toList.getLast? == some '/' then base ++ path
  else base ++ "/" ++ path

/-- Whether a segment does not name anything. -/
def isIdle (segment : List Char) : Bool :=
  segment.isEmpty || segment == ['.']

/-- The part of a path that comes before its segments: the root, or a first segment `.`. -/
def anchor (s : List Char) : List Char :=
  match s with
  | '/' :: _ => ['/']
  | ['.'] => ['.']
  | '.' :: '/' :: _ => ['.']
  | _ => []

/-- The text without the last segment that names something, the slashes and points around it
included. A root has no parent, and neither has the empty path; a lone point has the empty one. -/
def parent? (s : String) : Option String :=
  let start := anchor s.toList
  let body := (segments (s.toList.drop start.length)).reverse
  match body.dropWhile isIdle with
  | _ :: rest =>
    some (String.ofList (start ++ joinSegments (rest.dropWhile isIdle).reverse))
  | [] => if start = ['.'] then some "" else none

/-- The part of a file's name behind its last point, unless that point begins the name. -/
def extension? (name : String) : Option String :=
  let reversed := name.toList.reverse
  match reversed.dropWhile (· != '.') with
  | _ :: _ :: _ => some (String.ofList (reversed.takeWhile (· != '.')).reverse)
  | _ => none

/-! ## Sizes -/

theorem segments_ne_nil (s : List Char) : segments s ≠ [] := by
  cases s with
  | nil => simp [segments]
  | cons c rest =>
    unfold segments
    split
    · simp
    · split <;> simp

theorem joinSegments_segments (s : List Char) : joinSegments (segments s) = s := by
  induction s with
  | nil => rfl
  | cons c rest ih =>
    unfold segments
    split
    · rename_i hc
      subst hc
      cases hs : segments rest with
      | nil => exact absurd hs (segments_ne_nil rest)
      | cons a more => rw [hs] at ih; simp [joinSegments, ih]
    · cases hs : segments rest with
      | nil => exact absurd hs (segments_ne_nil rest)
      | cons a more =>
        rw [hs] at ih
        cases more with
        | nil => simp [joinSegments] at ih; simp [joinSegments, ih]
        | cons b more => simp [joinSegments] at ih; simp [joinSegments, ih]

theorem length_joinSegments_append_le (a b : List (List Char)) :
    (joinSegments a).length ≤ (joinSegments (a ++ b)).length := by
  induction a with
  | nil => simp [joinSegments]
  | cons s a ih =>
    cases a with
    | nil => cases b <;> simp [joinSegments]
    | cons t a => simpa [joinSegments] using ih

theorem length_joinSegments_le_of_suffix {a b : List (List Char)} (h : a <:+ b) :
    (joinSegments a.reverse).length ≤ (joinSegments b.reverse).length := by
  obtain ⟨c, rfl⟩ := h
  rw [List.reverse_append]
  exact length_joinSegments_append_le _ _

theorem length_joinSegments_lt_of_suffix {a b : List (List Char)} {s : List Char}
    (h : s :: a <:+ b) (hs : isIdle s = false) :
    (joinSegments a.reverse).length < (joinSegments b.reverse).length := by
  refine Nat.lt_of_lt_of_le ?_ (length_joinSegments_le_of_suffix h)
  rw [List.reverse_cons]
  have hpos : 0 < s.length := by
    cases s with
    | nil => simp [isIdle] at hs
    | cons => simp
  generalize a.reverse = front
  induction front with
  | nil => simpa [joinSegments] using hpos
  | cons t front ih =>
    cases front with
    | nil => simp [joinSegments]
    | cons u front => simpa [joinSegments] using ih

/-- A parent is shorter than the path. -/
theorem length_parent?_lt {s p : String} (h : parent? s = some p) :
    p.toList.length < s.toList.length := by
  unfold parent? at h
  dsimp only at h
  have hsplit : anchor s.toList ++ s.toList.drop (anchor s.toList).length = s.toList := by
    unfold anchor
    split <;> simp_all
  generalize hd : s.toList.drop (anchor s.toList).length = d at h hsplit
  have hbody := joinSegments_segments d
  have hlength := congrArg List.length hsplit
  rw [List.length_append] at hlength
  split at h
  · rename_i first rest hrest
    obtain rfl := Option.some.inj h
    have hfirst : isIdle first = false := by
      have := List.head?_dropWhile_not isIdle (segments d).reverse
      simpa [hrest] using this
    have hlt := length_joinSegments_lt_of_suffix
      (hrest ▸ List.dropWhile_suffix (p := isIdle) (l := (segments d).reverse)) hfirst
    have hle := length_joinSegments_le_of_suffix
      (List.dropWhile_suffix (p := isIdle) (l := rest))
    rw [List.reverse_reverse, hbody] at hlt
    simp only [String.toList_ofList, List.length_append]
    omega
  · split at h
    · rename_i hanchor
      obtain rfl := Option.some.inj h
      rw [hanchor] at hlength
      simp at hlength ⊢
      omega
    · simp at h

end AbiBindings.PathText
