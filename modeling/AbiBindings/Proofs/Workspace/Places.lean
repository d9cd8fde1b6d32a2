import AbiBindings.Proofs.Results
import AbiBindings.Workspace.FileSystem
import Mathlib.Logic.Relation

/-! # Where paths lead

A walk along a path ends, if it ends at all, where the names alone lead (`place`,
`locate_eq_place`). So the place of a path can be told before anything stands there, and what is
joined to a directory has its place right below it (`place_join`).

A walk that succeeds still does when directories are added and what it leads to stays
(`foldlM_enter_mono`). -/

namespace AbiBindings
set_option autoImplicit false

/-! ## Segments -/

namespace PathText

theorem segments_append_slash (a b : List Char) :
    segments (a ++ '/' :: b) = segments a ++ segments b := by
  induction a with
  | nil => simp [segments]
  | cons c a ih =>
    rw [List.cons_append, segments, segments, ih]
    by_cases hc : c = '/'
    · simp [hc]
    · obtain ⟨first, more, hfirst⟩ := List.exists_cons_of_ne_nil (segments_ne_nil a)
      simp [hc, hfirst]

theorem segments_eq_singleton {s : List Char} (h : '/' ∉ s) : segments s = [s] := by
  induction s with
  | nil => rfl
  | cons c s ih =>
    rw [List.mem_cons, not_or] at h
    rw [segments, if_neg (Ne.symm h.1), ih h.2]

/-- The path and those that taking the parent leads to from it. -/
def Above (path : String) : String → Prop :=
  Relation.ReflTransGen (fun q p => parent? q = some p) path

end PathText

/-- Whether a text can name an entry of a directory. -/
def isEntryName (name : String) : Bool :=
  name ≠ "" && name ≠ "." && name ≠ ".." && !name.toList.contains '/'

theorem isEntryName_iff {name : String} :
    isEntryName name = true ↔ name ≠ "" ∧ name ≠ "." ∧ name ≠ ".." ∧ '/' ∉ name.toList := by
  simp [isEntryName, and_assoc]

namespace FileSystem

theorem pathSegments_append_slash (dir name : String) :
    pathSegments (dir ++ "/" ++ name) = pathSegments dir ++ pathSegments name := by
  have hlist : (dir ++ "/" ++ name).toList = dir.toList ++ '/' :: name.toList := by simp
  rw [pathSegments, pathSegments, pathSegments, hlist, PathText.segments_append_slash,
    List.filter_append, List.map_append]

theorem pathSegments_entryName {name : String} (h : isEntryName name = true) :
    pathSegments name = [name] := by
  obtain ⟨hne, -, -, hslash⟩ := isEntryName_iff.mp h
  have hlist : name.toList ≠ [] := by simpa using hne
  rw [pathSegments, PathText.segments_eq_singleton hslash]
  simp [hlist]

/-- A joined path, when what is joined names an entry. -/
theorem join_entryName (dir : String) {name : String} (h : isEntryName name = true) :
    PathText.join dir name = name ∧ dir = "" ∨ (∃ front, dir = front ++ "/" ∧
      PathText.join dir name = front ++ "/" ++ name) ∨
      dir ≠ "" ∧ PathText.join dir name = dir ++ "/" ++ name := by
  obtain ⟨hne, -, -, hslash⟩ := isEntryName_iff.mp h
  have hrelative : PathText.isAbsolute name = false := by
    rw [PathText.isAbsolute, beq_eq_false_iff_ne]
    intro hhead
    exact hslash (List.mem_of_head? hhead)
  rw [PathText.join, hrelative]
  by_cases hdir : dir = ""
  · subst hdir
    exact .inl ⟨by simp, rfl⟩
  · refine .inr ?_
    by_cases hlast : dir.toList.getLast? = some '/'
    · refine .inl ?_
      obtain ⟨front, hfront⟩ := List.getLast?_eq_some_iff.mp hlast
      have hsplit : dir = String.ofList front ++ "/" := by
        rw [← String.toList_inj, hfront]
        simp
      exact ⟨String.ofList front, hsplit, by simp [hsplit]⟩
    · exact .inr ⟨hdir, by simp [hdir, hlast]⟩

theorem pathSegments_empty : pathSegments "" = [] := by
  decide

theorem pathSegments_join (dir : String) {name : String} (h : isEntryName name = true) :
    pathSegments (PathText.join dir name) = pathSegments dir ++ [name] := by
  have hname := pathSegments_entryName h
  rcases join_entryName dir h with ⟨hjoin, rfl⟩ | ⟨front, rfl, hjoin⟩ | ⟨-, hjoin⟩
  · rw [hjoin, hname, pathSegments_empty, List.nil_append]
  · have hdir := pathSegments_append_slash front ""
    rw [String.append_empty, pathSegments_empty, List.append_nil] at hdir
    rw [hjoin, pathSegments_append_slash, hname, hdir]
  · rw [hjoin, pathSegments_append_slash, hname]

theorem isAbsolute_append {s : String} (h : s ≠ "") (t : String) :
    PathText.isAbsolute (s ++ t) = PathText.isAbsolute s := by
  have hlist : s.toList ≠ [] := by simpa using h
  obtain ⟨c, rest, hs⟩ := List.exists_cons_of_ne_nil hlist
  simp [PathText.isAbsolute, hs]

theorem origin_join (fs : FileSystem) (dir : String) {name : String} (h : isEntryName name = true) :
    fs.origin (PathText.join dir name) = fs.origin dir := by
  obtain ⟨hne, -, -, hslash⟩ := isEntryName_iff.mp h
  have habsolute : PathText.isAbsolute (PathText.join dir name) = PathText.isAbsolute dir := by
    rcases join_entryName dir h with ⟨hjoin, rfl⟩ | ⟨front, rfl, hjoin⟩ | ⟨hdir, hjoin⟩
    · rw [hjoin]
      have hhead : name.toList.head? ≠ some '/' := fun hhead => hslash (List.mem_of_head? hhead)
      simpa [PathText.isAbsolute] using hhead
    · rw [hjoin, isAbsolute_append (by simp)]
    · rw [hjoin, String.append_assoc, isAbsolute_append hdir]
  rw [origin, origin, habsolute]

/-! ## Places -/

/-- Where a segment leads to from a location, by its name alone. -/
def step (l : Location) (segment : String) : Location :=
  if segment = "." then l else if segment = ".." then l.dropLast else l ++ [segment]

/-- The location that a path leads to by its names alone. -/
def place (fs : FileSystem) (path : String) : Location :=
  (pathSegments path).foldl step (fs.origin path)

theorem place_congr {fs fs' : FileSystem} (h : fs'.working = fs.working) (path : String) :
    fs'.place path = fs.place path := by
  rw [place, place, origin, origin, h]

theorem step_entryName {name : String} (h : isEntryName name = true) (l : Location) :
    step l name = l ++ [name] := by
  obtain ⟨-, hpoint, hpoints, -⟩ := isEntryName_iff.mp h
  rw [step, if_neg hpoint, if_neg hpoints]

theorem place_join (fs : FileSystem) (dir : String) {name : String}
    (h : isEntryName name = true) : fs.place (PathText.join dir name) = fs.place dir ++ [name] := by
  rw [place, pathSegments_join dir h, origin_join fs dir h, List.foldl_append, ← place]
  exact step_entryName h _

/-! ## Walks -/

variable {fs fs' : FileSystem}

theorem isDirectoryAt_iff {l : Location} :
    fs.isDirectoryAt l = true ↔ fs.get? l = some .directory := by
  unfold isDirectoryAt
  split
  · rename_i h
    simp [h]
  · rename_i h
    simpa using h

theorem isSome_get?_of_isDirectoryAt {l : Location} (h : fs.isDirectoryAt l = true) :
    (fs.get? l).isSome = true := by
  rw [isDirectoryAt_iff.mp h]
  rfl

theorem enter_eq_ok_iff {l k : Location} {segment : String} :
    fs.enter l segment = .ok k ↔ fs.isDirectoryAt l = true ∧ k = step l segment ∧
      (segment ≠ "." → segment ≠ ".." → (fs.get? k).isSome = true) := by
  unfold enter step
  by_cases hdir : fs.isDirectoryAt l = true
  · by_cases hpoint : segment = "."
    · simp only [hdir, hpoint]
      grind
    · by_cases hpoints : segment = ".."
      · simp only [hdir, hpoints]
        grind
      · by_cases hsome : (fs.get? (l ++ [segment])).isSome = true
        · simp only [hdir, hpoint, hpoints, hsome]
          grind
        · simp only [hdir, hpoint, hpoints, hsome]
          grind
  · simp [hdir]

theorem foldlM_enter_eq {segments : List String} {l k : Location}
    (h : segments.foldlM fs.enter l = .ok k) : k = segments.foldl step l := by
  induction segments generalizing l with
  | nil =>
    obtain rfl : l = k := by simpa [pure, Except.pure] using h
    rfl
  | cons segment rest ih =>
    rw [List.foldlM_cons] at h
    obtain ⟨next, henter, hrest⟩ := bind_eq_ok_iff.mp h
    rw [List.foldl_cons, ← (enter_eq_ok_iff.mp henter).2.1]
    exact ih hrest

/-- A walk goes on to succeed when directories stay and something stands at its end. -/
theorem foldlM_enter_mono
    (hdirs : ∀ l, fs.isDirectoryAt l = true → fs'.isDirectoryAt l = true)
    {segments : List String} {l k : Location} (hend : (fs'.get? k).isSome = true)
    (h : segments.foldlM fs.enter l = .ok k) : segments.foldlM fs'.enter l = .ok k := by
  induction segments generalizing l with
  | nil => exact h
  | cons segment rest ih =>
    rw [List.foldlM_cons] at h ⊢
    obtain ⟨next, henter, hrest⟩ := bind_eq_ok_iff.mp h
    obtain ⟨hdir, hnext, -⟩ := enter_eq_ok_iff.mp henter
    -- the walk ends here or goes on, and it only goes on from a directory
    have hsome : (fs'.get? next).isSome = true := by
      cases rest with
      | nil =>
        obtain rfl : next = k := by simpa [pure, Except.pure] using hrest
        exact hend
      | cons other more =>
        rw [List.foldlM_cons] at hrest
        obtain ⟨_, hother, -⟩ := bind_eq_ok_iff.mp hrest
        exact isSome_get?_of_isDirectoryAt (hdirs _ (enter_eq_ok_iff.mp hother).1)
    refine bind_eq_ok_iff.mpr ⟨next, ?_, ih hrest⟩
    exact enter_eq_ok_iff.mpr ⟨hdirs _ hdir, hnext, fun _ _ => hsome⟩

theorem locate_eq (path : String) : fs.locate path =
    if path.isEmpty then .error .notFound
    else (pathSegments path).foldlM fs.enter (fs.origin path) >>= fun l =>
      if endsInSlash path && !fs.isDirectoryAt l then .error .notADirectory else .ok l := by
  unfold locate
  cases path.isEmpty with
  | true => rfl
  | false =>
    cases (pathSegments path).foldlM fs.enter (fs.origin path) with
    | error fault => rfl
    | ok l => cases h : endsInSlash path && !fs.isDirectoryAt l <;> rfl

theorem locate_eq_ok_iff {path : String} {l : Location} :
    fs.locate path = .ok l ↔ path ≠ "" ∧
      (pathSegments path).foldlM fs.enter (fs.origin path) = .ok l ∧
      (endsInSlash path = true → fs.isDirectoryAt l = true) := by
  rw [locate_eq]
  by_cases hempty : path = ""
  · simp [hempty]
  · have hempty' : path.isEmpty = false := by simpa using hempty
    simp only [hempty', Bool.false_eq_true, if_false, bind_eq_ok_iff, ne_eq, hempty,
      not_false_eq_true, true_and]
    constructor
    · rintro ⟨k, hwalk, hk⟩
      split at hk
      · simp at hk
      · rename_i hslash
        obtain rfl : k = l := by simpa using hk
        exact ⟨hwalk, by simpa using hslash⟩
    · rintro ⟨hwalk, hslash⟩
      refine ⟨l, hwalk, if_neg ?_⟩
      simpa using hslash

theorem locate_eq_place {path : String} {l : Location} (h : fs.locate path = .ok l) :
    l = fs.place path :=
  foldlM_enter_eq (locate_eq_ok_iff.mp h).2.1

/-- What is located stays located when directories stay and it does itself. -/
theorem locate_mono (hworking : fs'.working = fs.working)
    (hdirs : ∀ l, fs.isDirectoryAt l = true → fs'.isDirectoryAt l = true) {path : String}
    {l : Location} (hend : (fs'.get? l).isSome = true) (h : fs.locate path = .ok l) :
    fs'.locate path = .ok l := by
  obtain ⟨hempty, hwalk, hslash⟩ := locate_eq_ok_iff.mp h
  have horigin : fs'.origin path = fs.origin path := by rw [origin, origin, hworking]
  refine locate_eq_ok_iff.mpr ⟨hempty, ?_, fun hs => hdirs l (hslash hs)⟩
  rw [horigin]
  exact foldlM_enter_mono hdirs hend hwalk

/-! ## Parents -/

theorem locateParent_eq (path : String) : fs.locateParent path =
    if path.isEmpty then .error .notFound
    else (pathSegments path).dropLast.foldlM fs.enter (fs.origin path) >>= fun l =>
      if !fs.isDirectoryAt l then .error .notADirectory
      else .ok (l, (pathSegments path).getLast?.filter fun name => name ≠ "." ∧ name ≠ "..") := by
  unfold locateParent
  dsimp only
  cases path.isEmpty with
  | true => rfl
  | false =>
    cases (pathSegments path).dropLast.foldlM fs.enter (fs.origin path) with
    | error fault => rfl
    | ok l =>
      cases h : !fs.isDirectoryAt l with
      | true => simp only [bind, Except.bind, h]; rfl
      | false =>
        cases (pathSegments path).getLast? with
        | none => simp only [bind, Except.bind, h]; rfl
        | some name =>
          by_cases hpoint : name = "."
          · simp [bind, Except.bind, pure, Except.pure, Option.filter, h, hpoint]
          · by_cases hpoints : name = ".."
            · simp [bind, Except.bind, pure, Except.pure, Option.filter, h, hpoints]
            · simp [bind, Except.bind, pure, Except.pure, Option.filter, h, hpoint, hpoints]

theorem locateParent_eq_ok {path : String} {l : Location} {name : String}
    (h : fs.locateParent path = .ok (l, some name)) :
    path ≠ "" ∧ pathSegments path = (pathSegments path).dropLast ++ [name] ∧
      name ≠ "." ∧ name ≠ ".." ∧
      (pathSegments path).dropLast.foldlM fs.enter (fs.origin path) = .ok l ∧
      fs.isDirectoryAt l = true := by
  rw [locateParent_eq] at h
  split at h
  · simp at h
  · rename_i hempty
    obtain ⟨k, hwalk, hk⟩ := bind_eq_ok_iff.mp h
    split at hk
    · simp at hk
    · rename_i hdir
      simp only [Except.ok.injEq, Prod.mk.injEq, Option.filter_eq_some_iff] at hk
      obtain ⟨rfl, hlast, hname⟩ := hk
      obtain ⟨front, hfront⟩ := List.getLast?_eq_some_iff.mp hlast
      have hnames : name ≠ "." ∧ name ≠ ".." := by simpa using hname
      refine ⟨by simpa using hempty, ?_, hnames.1, hnames.2, hwalk, by simpa using hdir⟩
      rw [hfront, List.dropLast_concat]

/-- What has a parent has its place right below it. -/
theorem place_of_locateParent {path : String} {l : Location} {name : String}
    (h : fs.locateParent path = .ok (l, some name)) : fs.place path = l ++ [name] := by
  obtain ⟨-, hsegments, hpoint, hpoints, hwalk, -⟩ := locateParent_eq_ok h
  rw [place, hsegments, List.foldl_append, ← foldlM_enter_eq hwalk]
  simp [step, hpoint, hpoints]

/-- Something put in the place of a path is located there. -/
theorem locate_of_locateParent {path : String} {l : Location} {name : String}
    (h : fs.locateParent path = .ok (l, some name)) (hworking : fs'.working = fs.working)
    (hdirs : ∀ l, fs.isDirectoryAt l = true → fs'.isDirectoryAt l = true)
    (hslash : endsInSlash path = false) (hend : (fs'.get? (l ++ [name])).isSome = true) :
    fs'.locate path = .ok (l ++ [name]) := by
  obtain ⟨hempty, hsegments, hpoint, hpoints, hwalk, hdir⟩ := locateParent_eq_ok h
  have horigin : fs'.origin path = fs.origin path := by rw [origin, origin, hworking]
  refine locate_eq_ok_iff.mpr ⟨hempty, ?_, by simp [hslash]⟩
  rw [hsegments, List.foldlM_append, horigin]
  have hfront := foldlM_enter_mono hdirs (isSome_get?_of_isDirectoryAt (hdirs l hdir)) hwalk
  refine bind_eq_ok_iff.mpr ⟨l, hfront, ?_⟩
  rw [List.foldlM_cons]
  refine bind_eq_ok_iff.mpr ⟨l ++ [name], enter_eq_ok_iff.mpr ⟨hdirs l hdir, ?_, ?_⟩, rfl⟩
  · simp [step, hpoint, hpoints]
  · exact fun _ _ => hend

end FileSystem

end AbiBindings
