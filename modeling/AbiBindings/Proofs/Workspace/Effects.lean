import AbiBindings.Proofs.Workspace.Frames
import AbiBindings.Workspace.Generation
import Mathlib.Data.Set.Insert

/-! # What the parts of a run do

A run is performed on a workspace (`perform`). Whatever it gives, the file system that it leaves
differs within a frame that is composed from those of its parts (`Leaves`): making directories
makes those of the path and of the paths above it (`leaves_makeDirectories`), and removing the files
of earlier runs writes only in the output directory and only where the names have the extension
(`frame_removeEarlier`). -/

namespace AbiBindings
set_option autoImplicit false

open FileSystem

/-! ## Performing -/

/-- What a computation gives, and the surroundings that it leaves. -/
def perform {α : Type} (x : StateM Workspace α) (w : Workspace) : α × Workspace :=
  Id.run (x.run w)

theorem exists_perform {α : Type} (x : StateM Workspace α) (w : Workspace) :
    ∃ a w', perform x w = (a, w') :=
  ⟨_, _, rfl⟩

section

variable {α β : Type} {w w' : Workspace}

theorem perform_bind (x : ExceptT Error (StateM Workspace) α)
    (f : α → ExceptT Error (StateM Workspace) β) (w : Workspace) :
    perform (x >>= f).run w =
      match perform x.run w with
      | (.ok a, w₁) => perform (f a).run w₁
      | (.error e, w₁) => (.error e, w₁) := by
  show perform (ExceptT.bindCont f (perform x.run w).1) (perform x.run w).2 = _
  cases perform x.run w with
  | mk r w₁ => cases r <;> rfl

theorem perform_bind_eq_ok {x : ExceptT Error (StateM Workspace) α}
    {f : α → ExceptT Error (StateM Workspace) β} {b : β} :
    perform (x >>= f).run w = (.ok b, w') ↔
      ∃ a w₁, perform x.run w = (.ok a, w₁) ∧ perform (f a).run w₁ = (.ok b, w') := by
  rw [perform_bind]
  cases perform x.run w with
  | mk r w₁ => cases r <;> simp

theorem perform_pure (a : α) (w : Workspace) :
    perform (pure a : ExceptT Error (StateM Workspace) α).run w = (.ok a, w) :=
  rfl

theorem perform_pure_eq_ok {a b : α} :
    perform (pure a : ExceptT Error (StateM Workspace) α).run w = (.ok b, w') ↔ a = b ∧ w = w' := by
  rw [perform_pure]
  simp

theorem perform_ofResult (r : Except Error α) (w : Workspace) :
    perform (ofResult r : ExceptT Error (StateM Workspace) α).run w = (r, w) :=
  rfl

theorem perform_orFail (wrap : IoFault → Error) (operation : StateM Workspace (Except IoFault α))
    (w : Workspace) : perform (orFail wrap operation).run w =
      ((perform operation w).1.mapError wrap, (perform operation w).2) :=
  rfl

theorem perform_readText (path : String) (w : Workspace) :
    perform (Access.readText path : StateM Workspace _) w = (w.files.readText path, w) :=
  rfl

theorem perform_exists? (path : String) (w : Workspace) :
    perform (Access.exists? path : StateM Workspace _) w = (w.files.exists? path, w) :=
  rfl

theorem perform_list (path : String) (w : Workspace) :
    perform (Access.list path : StateM Workspace _) w = (w.files.list path, w) :=
  rfl

theorem perform_update_of_ok (operation : FileSystem → Except IoFault FileSystem)
    {files : FileSystem} (h : operation w.files = .ok files) :
    perform (Workspace.update operation) w = (.ok (), { w with files }) := by
  simp only [perform, Id.run, Workspace.update, StateT.run, h]

theorem perform_update_of_error (operation : FileSystem → Except IoFault FileSystem)
    {fault : IoFault} (h : operation w.files = .error fault) :
    perform (Workspace.update operation) w = (.error fault, w) := by
  simp only [perform, Id.run, Workspace.update, StateT.run, h]

theorem perform_takeNotes {γ : Type} (note : γ → Note) (items : List γ) (w : Workspace) :
    perform (items.forM fun i => takeNote (note i) : ExceptT Error (StateM Workspace) Unit).run w =
      (.ok (), { w with notes := w.notes ++ items.map note }) := by
  induction items generalizing w with
  | nil =>
    rw [List.map_nil, List.append_nil]
    rfl
  | cons i items ih =>
    have h := ih { w with notes := w.notes ++ [note i] }
    rw [List.append_assoc] at h
    exact h

end

/-! ## Frames of computations -/

/-- Whatever a computation gives, it leaves a file system within the frame. -/
def Leaves {α : Type} (base : FileSystem) (made written : Set Location) (x : StateM Workspace α) :
    Prop :=
  ∀ w, w.files.working = base.working → Frame made written w.files (perform x w).2.files

namespace Leaves

variable {α β : Type} {base : FileSystem} {made written : Set Location}

theorem of_files_eq {x : StateM Workspace α} (h : ∀ w, (perform x w).2.files = w.files) :
    Leaves base made written x := by
  intro w _
  rw [h w]
  exact .refl made written w.files

theorem pure (a : α) : Leaves base made written (pure a) :=
  of_files_eq fun _ => rfl

theorem bind {x : StateM Workspace α} {f : α → StateM Workspace β}
    (hx : Leaves base made written x) (hf : ∀ a, Leaves base made written (f a)) :
    Leaves base made written (x >>= f) := by
  intro w hw
  have hfirst := hx w hw
  exact hfirst.trans (hf _ _ (hfirst.working.trans hw))

/-- A part that fails ends the run. -/
theorem bindExcept {x : ExceptT Error (StateM Workspace) α}
    {f : α → ExceptT Error (StateM Workspace) β} (hx : Leaves base made written x.run)
    (hf : ∀ a, Leaves base made written (f a).run) : Leaves base made written (x >>= f).run := by
  show Leaves base made written (x.run >>= ExceptT.bindCont f)
  refine .bind hx fun r => ?_
  cases r with
  | error e => exact .pure _
  | ok a => exact hf a

theorem forM {γ : Type} {items : List γ} {f : γ → ExceptT Error (StateM Workspace) Unit}
    (h : ∀ i ∈ items, Leaves base made written (f i).run) :
    Leaves base made written (items.forM f).run := by
  induction items with
  | nil => exact .pure _
  | cons i items ih =>
    exact .bindExcept (h i List.mem_cons_self) fun _ =>
      ih fun j hj => h j (List.mem_cons_of_mem _ hj)

theorem orFail {wrap : IoFault → Error} {operation : StateM Workspace (Except IoFault α)}
    (h : Leaves base made written operation) :
    Leaves base made written (orFail wrap operation).run :=
  .bind h fun _ => .pure _

theorem update {operation : FileSystem → Except IoFault FileSystem}
    (h : ∀ fs fs', fs.working = base.working → operation fs = .ok fs' → Frame made written fs fs') :
    Leaves base made written (Workspace.update operation) := by
  intro w hw
  cases hop : operation w.files with
  | error fault =>
    rw [perform_update_of_error operation hop]
    exact .refl made written w.files
  | ok files =>
    rw [perform_update_of_ok operation hop]
    exact h _ _ hw hop

theorem makeDirectory {path : String} (h : base.place path ∈ made) :
    Leaves base made written (Access.makeDirectory path : StateM Workspace _) := by
  refine update fun fs fs' hworking hop => ?_
  refine (frame_makeDirectory hop).mono ?_ (Set.empty_subset _)
  rw [Set.singleton_subset_iff, place_congr hworking]
  exact h

theorem removeFile {path : String} (h : base.place path ∈ written) :
    Leaves base made written (Access.removeFile path : StateM Workspace _) := by
  refine update fun fs fs' hworking hop => ?_
  refine (frame_removeFile hop).mono (Set.empty_subset _) ?_
  rw [Set.singleton_subset_iff, place_congr hworking]
  exact h

end Leaves

/-! ## Making directories -/

/-- The places of a path and of those above it. -/
def FileSystem.placesAbove (fs : FileSystem) (path : String) : Set Location :=
  {l | ∃ q, PathText.Above path q ∧ fs.place q = l}

theorem leaves_makeDirectories {base : FileSystem} {made written : Set Location} (path : String)
    (h : base.placesAbove path ⊆ made) : Leaves base made written (makeDirectories path) := by
  induction hlength : path.toList.length using Nat.strong_induction_on generalizing path with
  | _ n ih =>
    have hpath : base.place path ∈ made := h ⟨path, .refl, rfl⟩
    rw [makeDirectories]
    split
    · exact .pure _
    · refine .bind (.makeDirectory hpath) fun r => ?_
      split
      · exact .pure _
      · split
        · exact .bind (.of_files_eq fun _ => rfl) fun _ => .pure _
        · split
          · exact .pure _
          · -- the parent is shorter, and what is above it is above the path
            rename_i parent hparent
            have hshorter : parent.toList.length < n := hlength ▸ PathText.length_parent?_lt hparent
            have habove : base.placesAbove parent ⊆ made := by
              rintro l ⟨q, hq, rfl⟩
              exact h ⟨q, .head hparent hq, rfl⟩
            refine .bind (ih _ hshorter parent habove rfl) fun r => ?_
            split
            · exact .pure _
            · refine .bind (.makeDirectory hpath) fun r => ?_
              split
              · exact .pure _
              · exact .bind (.of_files_eq fun _ => rfl) fun _ => .pure _

/-! ## Removing earlier files -/

/-- The locations in the output directory whose names have the extension. -/
def Settings.outputs (s : Settings) (fs : FileSystem) : Set Location :=
  {l | ∃ name, PathText.extension? name = some s.extension ∧ l = fs.place s.outputDirectory ++ [name]}

namespace Settings

variable {s : Settings} {fs fs' : FileSystem}

theorem outputs_congr (h : fs'.working = fs.working) : s.outputs fs' = s.outputs fs := by
  rw [outputs, outputs, place_congr h]

theorem placesAbove_congr (h : fs'.working = fs.working) (path : String) :
    fs'.placesAbove path = fs.placesAbove path := by
  simp only [placesAbove, place_congr h]

end Settings

/-- Every part of every location can name an entry of a directory. -/
def FileSystem.EntryNames (fs : FileSystem) : Prop :=
  ∀ e ∈ fs.entries, ∀ name ∈ e.1, isEntryName name = true

instance (fs : FileSystem) : Decidable fs.EntryNames :=
  inferInstanceAs (Decidable (∀ e ∈ fs.entries, ∀ name ∈ e.1, _))

theorem FileSystem.isEntryName_of_mem_list {fs : FileSystem} (h : fs.EntryNames) {path : String}
    {listed : List (String × Bool)} (hlist : fs.list path = .ok listed) {e : String × Bool}
    (he : e ∈ listed) : isEntryName e.1 = true := by
  obtain ⟨l, -, hlist⟩ := bind_eq_ok_iff.mp hlist
  split at hlist
  · simp [throw, throwThe, MonadExceptOf.throw, bind, Except.bind] at hlist
  · obtain rfl := Except.ok.inj hlist
    obtain ⟨⟨k, n⟩, hk, hentry⟩ := List.mem_filterMap.mp he
    dsimp only at hentry
    split at hentry
    · rename_i name hname
      split at hentry
      · obtain rfl := Option.some.inj hentry
        exact h _ hk _ (List.mem_of_getLast? hname)
      · simp at hentry
    · simp at hentry

/-- The names of the files of earlier runs in a directory that is listed. -/
def Settings.earlier (s : Settings) (listed : List (String × Bool)) : List (String × Bool) :=
  listed.filter fun e => e.2 && PathText.extension? e.1 == some s.extension

theorem perform_removeEarlier (s : Settings) (w : Workspace) :
    perform (removeEarlier s).run w =
      match w.files.exists? s.outputDirectory with
      | .error fault => (.error (.io fault), w)
      | .ok false => (.ok (), w)
      | .ok true =>
        match w.files.list s.outputDirectory with
        | .error fault => (.error (.io fault), w)
        | .ok listed =>
          perform ((s.earlier listed).forM fun e => orFail (m := StateM Workspace) Error.io
            (Access.removeFile (PathText.join s.outputDirectory e.1))).run w := by
  rw [removeEarlier, perform_bind, perform_orFail, perform_exists?]
  cases w.files.exists? s.outputDirectory with
  | error fault => rfl
  | ok found =>
    cases found with
    | false => rfl
    | true =>
      simp only [Except.mapError, if_true]
      rw [perform_bind, perform_orFail, perform_list]
      cases w.files.list s.outputDirectory with
      | error fault => rfl
      | ok listed => rfl

/-- Files are removed in turn until one cannot be. -/
theorem perform_removeFiles_cons {α : Type} (path : α → String) (i : α) (rest : List α)
    (w : Workspace) :
    perform ((i :: rest).forM fun i =>
      orFail (m := StateM Workspace) Error.io (Access.removeFile (path i))).run w =
      match w.files.removeFile (path i) with
      | .error fault => (.error (.io fault), w)
      | .ok files => perform (rest.forM fun i =>
          orFail (m := StateM Workspace) Error.io (Access.removeFile (path i))).run
            { w with files } := by
  have hcons : ((i :: rest).forM fun i =>
      orFail (m := StateM Workspace) Error.io (Access.removeFile (path i))) =
      orFail Error.io (Access.removeFile (path i)) >>= fun _ =>
        rest.forM fun i => orFail Error.io (Access.removeFile (path i)) := rfl
  have hupdate : (Access.removeFile (path i) : StateM Workspace _) =
      Workspace.update (·.removeFile (path i)) := rfl
  rw [hcons, perform_bind, perform_orFail, hupdate]
  cases hremove : w.files.removeFile (path i) with
  | error fault =>
    rw [perform_update_of_error _ hremove]
    rfl
  | ok files =>
    rw [perform_update_of_ok _ hremove]
    rfl

theorem frame_removeEarlier {s : Settings} {w : Workspace} (h : w.files.EntryNames) :
    Frame ∅ (s.outputs w.files) w.files (perform (removeEarlier s).run w).2.files := by
  rw [perform_removeEarlier]
  split
  · exact .refl _ _ _
  · exact .refl _ _ _
  · split
    · exact .refl _ _ _
    · rename_i listed hlist
      have hleaves : ∀ e ∈ s.earlier listed, Leaves w.files ∅ (s.outputs w.files)
          (orFail Error.io (Access.removeFile (PathText.join s.outputDirectory e.1))).run := by
        intro e he
        obtain ⟨hmem, hearlier⟩ := List.mem_filter.mp he
        have hname := isEntryName_of_mem_list h hlist hmem
        have hextension : PathText.extension? e.1 = some s.extension := by
          simpa using (Bool.and_eq_true_iff.mp hearlier).2
        exact .orFail (.removeFile ⟨e.1, hextension, w.files.place_join _ hname⟩)
      exact Leaves.forM hleaves w rfl

end AbiBindings
