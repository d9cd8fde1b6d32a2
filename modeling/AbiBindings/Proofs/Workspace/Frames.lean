import AbiBindings.Proofs.Workspace.Places
import Mathlib.Data.Set.Basic

/-! # What operations leave alone

A frame tells what lies between two file systems: directories stay, new ones stand at certain
locations only, and files differ at certain locations only (`Frame`). Frames compose, and each
operation has a small one: that of the place of its path. What is located outside the written
locations is located, and read, as before (`Frame.locate`, `Frame.readText`). -/

namespace AbiBindings
namespace FileSystem
set_option autoImplicit false

variable {fs fs' fs'' : FileSystem} {made written : Set Location}

/-! ## Files -/

/-- What the file at a location holds. -/
def contentsAt? (fs : FileSystem) (l : Location) : Option Contents :=
  match fs.get? l with
  | some (.file c) => some c
  | _ => none

theorem contentsAt?_eq_some_iff {l : Location} {c : Contents} :
    fs.contentsAt? l = some c ↔ fs.get? l = some (.file c) := by
  unfold contentsAt?
  split
  · rename_i d h
    simp [h]
  · rename_i h
    constructor
    · simp
    · exact fun hc => absurd hc (h c)

theorem isSome_get?_of_contentsAt? {l : Location} {c : Contents} (h : fs.contentsAt? l = some c) :
    (fs.get? l).isSome = true := by
  rw [contentsAt?_eq_some_iff.mp h]
  rfl

theorem contentsAt?_congr {l : Location} (h : fs'.get? l = fs.get? l) :
    fs'.contentsAt? l = fs.contentsAt? l := by
  rw [contentsAt?, contentsAt?, h]

theorem isDirectoryAt_congr {l : Location} (h : fs'.get? l = fs.get? l) :
    fs'.isDirectoryAt l = fs.isDirectoryAt l := by
  rw [isDirectoryAt, isDirectoryAt, h]

/-- The root is a directory. -/
theorem ne_nil_of_isDirectoryAt_eq_false {l : Location} (h : fs.isDirectoryAt l = false) :
    l ≠ [] := by
  rintro rfl
  exact Bool.noConfusion h

theorem get?_erase_self {l : Location} (h : l ≠ []) : (fs.erase l).get? l = none := by
  rw [get?, if_neg h, erase, List.lookup_eq_none_iff]
  intro e he
  have hne : e.1 ≠ l := by simpa using (List.mem_filter.mp he).2
  simpa using Ne.symm hne

theorem readText_of_contentsAt? {path : String} {l : Location} {c : Contents}
    (hlocate : fs.locate path = .ok l) (hc : fs.contentsAt? l = some c) :
    fs.readText path =
      match c.text? with
      | some s => .ok s
      | none => .error .notUtf8 := by
  rw [readText, hlocate]
  simp only [bind, Except.bind, contentsAt?_eq_some_iff.mp hc]
  rfl

theorem readText_eq_ok_iff {path text : String} :
    fs.readText path = .ok text ↔
      ∃ l c, fs.locate path = .ok l ∧ fs.contentsAt? l = some c ∧ c.text? = some text := by
  constructor
  · intro h
    obtain ⟨l, hlocate, hl⟩ := bind_eq_ok_iff.mp h
    cases hc : fs.contentsAt? l with
    | none =>
      exfalso
      unfold contentsAt? at hc
      split at hc
      · simp at hc
      · rename_i hnone
        split at hl
        · rename_i c hfile
          exact hnone c hfile
        · simp [throw, throwThe, MonadExceptOf.throw] at hl
        · simp [throw, throwThe, MonadExceptOf.throw] at hl
    | some c =>
      rw [readText_of_contentsAt? hlocate hc] at h
      refine ⟨l, c, hlocate, hc, ?_⟩
      split at h
      · rename_i s hs
        rw [hs, Except.ok.inj h]
      · simp at h
  · rintro ⟨l, c, hlocate, hc, htext⟩
    rw [readText_of_contentsAt? hlocate hc, htext]

/-! ## Frames -/

/-- Between two file systems directories stay, new ones stand at the made locations only, and files
differ at the written locations only. -/
structure Frame (made written : Set Location) (fs fs' : FileSystem) : Prop where
  working : fs'.working = fs.working
  kept : ∀ l, fs.isDirectoryAt l = true → fs'.isDirectoryAt l = true
  created : ∀ l, fs'.isDirectoryAt l = true → fs.isDirectoryAt l = true ∨ l ∈ made
  files : ∀ l ∉ written, fs'.contentsAt? l = fs.contentsAt? l

namespace Frame

theorem refl (made written : Set Location) (fs : FileSystem) : Frame made written fs fs where
  working := rfl
  kept _ h := h
  created _ h := .inl h
  files _ _ := rfl

theorem trans (h : Frame made written fs fs') (h' : Frame made written fs' fs'') :
    Frame made written fs fs'' where
  working := h'.working.trans h.working
  kept l hl := h'.kept l (h.kept l hl)
  created l hl := (h'.created l hl).elim (h.created l) .inr
  files l hl := (h'.files l hl).trans (h.files l hl)

theorem mono {made' written' : Set Location} (h : Frame made written fs fs') (hm : made ⊆ made')
    (hw : written ⊆ written') : Frame made' written' fs fs' where
  working := h.working
  kept := h.kept
  created l hl := (h.created l hl).imp id (@hm l)
  files l hl := h.files l fun hmem => hl (hw hmem)

theorem place (h : Frame made written fs fs') (path : String) : fs'.place path = fs.place path :=
  place_congr h.working path

theorem locate (h : Frame made written fs fs') {path : String} {l : Location} {c : Contents}
    (hl : l ∉ written) (hc : fs.contentsAt? l = some c) (hlocate : fs.locate path = .ok l) :
    fs'.locate path = .ok l := by
  have hc' : fs'.contentsAt? l = some c := (h.files l hl).trans hc
  exact locate_mono h.working h.kept (isSome_get?_of_contentsAt? hc') hlocate

theorem readText (h : Frame made written fs fs') {path text : String}
    (hl : fs.place path ∉ written) (hread : fs.readText path = .ok text) :
    fs'.readText path = .ok text := by
  obtain ⟨l, c, hlocate, hc, htext⟩ := readText_eq_ok_iff.mp hread
  have hplace : l = fs.place path := locate_eq_place hlocate
  rw [← hplace] at hl
  exact readText_eq_ok_iff.mpr ⟨l, c, h.locate hl hc hlocate, (h.files l hl).trans hc, htext⟩

end Frame

/-! ## Changes at one location -/

theorem frame_put_directory {l : Location} (h : fs.get? l = none) :
    Frame {l} ∅ fs (fs.put l .directory) := by
  have hne : l ≠ [] := by
    rintro rfl
    simp [get?] at h
  have hother : ∀ k ≠ l, (fs.put l .directory).get? k = fs.get? k := fun k hk => get?_put_of_ne hk
  refine ⟨rfl, fun k hk => ?_, fun k hk => ?_, fun k _ => ?_⟩
  · have hkl : k ≠ l := by
      rintro rfl
      simp [isDirectoryAt_iff.mp hk] at h
    rw [isDirectoryAt_congr (hother k hkl)]
    exact hk
  · by_cases hkl : k = l
    · exact .inr hkl
    · rw [isDirectoryAt_congr (hother k hkl)] at hk
      exact .inl hk
  · by_cases hkl : k = l
    · subst hkl
      rw [contentsAt?, contentsAt?, get?_put_self hne, h]
    · exact contentsAt?_congr (hother k hkl)

/-- Where there is no directory and none comes to be, only the file there changes. -/
theorem frame_of_get?_eq {l : Location} (hworking : fs'.working = fs.working)
    (hother : ∀ k ≠ l, fs'.get? k = fs.get? k) (h : fs.isDirectoryAt l = false)
    (h' : fs'.isDirectoryAt l = false) : Frame ∅ {l} fs fs' := by
  refine ⟨hworking, fun k hk => ?_, fun k hk => .inl ?_, fun k hk => contentsAt?_congr (hother k hk)⟩
  · have hkl : k ≠ l := by
      rintro rfl
      simp [h] at hk
    rw [isDirectoryAt_congr (hother k hkl)]
    exact hk
  · have hkl : k ≠ l := by
      rintro rfl
      simp [h'] at hk
    rw [isDirectoryAt_congr (hother k hkl)] at hk
    exact hk

theorem frame_put_file {l : Location} {c : Contents} (h : fs.isDirectoryAt l = false) :
    Frame ∅ {l} fs (fs.put l (.file c)) := by
  have hne := ne_nil_of_isDirectoryAt_eq_false h
  refine frame_of_get?_eq rfl (fun k hk => get?_put_of_ne hk) h ?_
  rw [isDirectoryAt, get?_put_self hne]

theorem frame_erase {l : Location} (h : fs.isDirectoryAt l = false) :
    Frame ∅ {l} fs (fs.erase l) := by
  have hne := ne_nil_of_isDirectoryAt_eq_false h
  refine frame_of_get?_eq rfl (fun k hk => get?_erase_of_ne hk) h ?_
  rw [isDirectoryAt, get?_erase_self hne]

/-! ## Operations -/

theorem frame_makeDirectory {path : String} (h : fs.makeDirectory path = .ok fs') :
    Frame {fs.place path} ∅ fs fs' := by
  obtain ⟨⟨l, name?⟩, hparent, h⟩ := bind_eq_ok_iff.mp h
  cases name? with
  | none => simp [throw, throwThe, MonadExceptOf.throw] at h
  | some name =>
    rw [place_of_locateParent hparent]
    dsimp only at h
    split at h
    · simp [throw, throwThe, MonadExceptOf.throw] at h
    · rename_i hnone
      obtain rfl : fs.put (l ++ [name]) .directory = fs' := by
        simpa [pure, Except.pure] using h
      exact frame_put_directory (by simpa using hnone)

theorem frame_removeFile {path : String} (h : fs.removeFile path = .ok fs') :
    Frame ∅ {fs.place path} fs fs' := by
  obtain ⟨l, hlocate, h⟩ := bind_eq_ok_iff.mp h
  rw [← locate_eq_place hlocate]
  split at h
  · simp [throw, throwThe, MonadExceptOf.throw] at h
  · rename_i hdir
    obtain rfl : fs.erase l = fs' := by simpa [pure, Except.pure] using h
    exact frame_erase (by simpa using hdir)

theorem contentsAt?_removeFile {path : String} (h : fs.removeFile path = .ok fs') (l : Location) :
    fs'.contentsAt? l = if fs.place path = l then none else fs.contentsAt? l := by
  obtain ⟨k, hlocate, h⟩ := bind_eq_ok_iff.mp h
  obtain rfl := locate_eq_place hlocate
  split at h
  · simp [throw, throwThe, MonadExceptOf.throw] at h
  · rename_i hdir
    obtain rfl : fs.erase (fs.place path) = fs' := by simpa [pure, Except.pure] using h
    split
    · rename_i hl
      subst hl
      have hne := ne_nil_of_isDirectoryAt_eq_false (by simpa using hdir)
      rw [contentsAt?, get?_erase_self hne]
    · rename_i hl
      exact contentsAt?_congr (get?_erase_of_ne (Ne.symm hl))

theorem writeText_eq_ok {path text : String} (h : fs.writeText path text = .ok fs') :
    endsInSlash path = false ∧ fs.isDirectoryAt (fs.place path) = false ∧
      fs' = fs.put (fs.place path) (.file (.text text)) ∧
      ∃ l name, fs.locateParent path = .ok (l, some name) := by
  obtain ⟨⟨l, name?⟩, hparent, h⟩ := bind_eq_ok_iff.mp h
  cases name? with
  | none => simp [throw, throwThe, MonadExceptOf.throw] at h
  | some name =>
    rw [place_of_locateParent hparent]
    dsimp only at h
    split at h
    · simp [throw, throwThe, MonadExceptOf.throw] at h
    · rename_i hfree
      rw [Bool.or_eq_true, not_or] at hfree
      refine ⟨by simpa using hfree.1, by simpa using hfree.2, ?_, l, name, hparent⟩
      simpa [pure, Except.pure, eq_comm] using h

theorem frame_writeText {path text : String} (h : fs.writeText path text = .ok fs') :
    Frame ∅ {fs.place path} fs fs' := by
  obtain ⟨-, hdir, rfl, -⟩ := writeText_eq_ok h
  exact frame_put_file hdir

theorem contentsAt?_writeText {path text : String} (h : fs.writeText path text = .ok fs') :
    fs'.contentsAt? (fs.place path) = some (.text text) := by
  obtain ⟨-, hdir, rfl, -⟩ := writeText_eq_ok h
  exact contentsAt?_eq_some_iff.mpr (get?_put_self (ne_nil_of_isDirectoryAt_eq_false hdir))

theorem locate_writeText {path text : String} (h : fs.writeText path text = .ok fs') :
    fs'.locate path = .ok (fs.place path) := by
  have hframe := frame_writeText h
  have hsome := isSome_get?_of_contentsAt? (contentsAt?_writeText h)
  obtain ⟨hslash, -, -, l, name, hparent⟩ := writeText_eq_ok h
  rw [place_of_locateParent hparent] at hsome ⊢
  exact locate_of_locateParent hparent hframe.working hframe.kept hslash hsome

/-- What was written is read. -/
theorem readText_writeText {path text : String} (h : fs.writeText path text = .ok fs') :
    fs'.readText path = .ok text :=
  readText_eq_ok_iff.mpr ⟨_, _, locate_writeText h, contentsAt?_writeText h, rfl⟩

end FileSystem
end AbiBindings
