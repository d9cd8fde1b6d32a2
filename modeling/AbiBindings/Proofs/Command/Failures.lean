import AbiBindings.Proofs.Command.Outcome
import AbiBindings.Proofs.Workspace.Outputs

/-! # What commands that fail have done

A command that is refused changes nothing, and one that is accepted can only fail like a run does. By
then files of earlier runs may be gone and contracts before the one that fails may have been written
(`stopped_of_generate`, `failed_commands_spare_files`), since an interface that is JSON may still
declare no contract (`undeclared_contract_stops_late`). What is left tells which of these it was: a
file that no contract was written to is as before or gone, and one that was written holds the
bindings of its contract (`Stopped`). -/

namespace AbiBindings
set_option autoImplicit false

open FileSystem

/-! ## Runs that stop -/

/-- Binding in turn, with no recursion of its own. -/
theorem bindAll_eq_foldr {m : Type → Type} [Monad m] [Access m] (s : Settings)
    (entries : List (String × String)) : bindAll (m := m) s entries =
      entries.foldr (fun e rest => do
        let written? ← bindContract s e.1 e.2
        return written?.toList ++ (← rest)) (return []) := by
  induction entries with
  | nil => rfl
  | cons e rest ih => rw [bindAll, ih, List.foldr_cons]

/-- Every file is as it was or gone. -/
def FileSystem.Removes (fs fs' : FileSystem) : Prop :=
  ∀ l, fs'.contentsAt? l = fs.contentsAt? l ∨ fs'.contentsAt? l = none

theorem FileSystem.Removes.refl (fs : FileSystem) : fs.Removes fs :=
  fun _ => .inl rfl

theorem FileSystem.Removes.trans {fs fs' fs'' : FileSystem} (h : fs.Removes fs')
    (h' : fs'.Removes fs'') : fs.Removes fs'' := by
  intro l
  rcases h' l with hsame | hgone
  · rw [hsame]
    exact h l
  · exact .inr hgone

theorem FileSystem.removes_removeFile {fs fs' : FileSystem} {path : String}
    (h : fs.removeFile path = .ok fs') : fs.Removes fs' := by
  intro l
  rw [contentsAt?_removeFile h]
  split
  · exact .inr rfl
  · exact .inl rfl

/-- Removing files in turn removes them until one cannot be removed. -/
theorem removes_removeFiles {α : Type} {items : List α} {path : α → String} {w w' : Workspace}
    {r : Except Error Unit}
    (h : perform (items.forM fun i =>
      orFail (m := StateM Workspace) Error.io (Access.removeFile (path i))).run w = (r, w')) :
    w.files.Removes w'.files ∧ ∀ e, r = .error e → ∃ fault, e = .io fault := by
  induction items generalizing w with
  | nil =>
    cases h
    exact ⟨.refl _, nofun⟩
  | cons i rest ih =>
    rw [perform_removeFiles_cons] at h
    split at h
    · rename_i fault _
      cases h
      exact ⟨.refl _, fun e he => ⟨fault, (Except.error.inj he).symm⟩⟩
    · rename_i files hremove
      obtain ⟨hrest, herror⟩ := ih h
      exact ⟨(removes_removeFile hremove).trans hrest, herror⟩

theorem removes_removeEarlier {s : Settings} {w w' : Workspace} {r : Except Error Unit}
    (h : perform (removeEarlier s).run w = (r, w')) :
    w.files.Removes w'.files ∧ ∀ e, r = .error e → ∃ fault, e = .io fault := by
  rw [perform_removeEarlier] at h
  split at h
  · rename_i fault _
    cases h
    exact ⟨.refl _, fun e he => ⟨fault, (Except.error.inj he).symm⟩⟩
  · cases h
    exact ⟨.refl _, nofun⟩
  · split at h
    · rename_i fault _
      cases h
      exact ⟨.refl _, fun e he => ⟨fault, (Except.error.inj he).symm⟩⟩
    · exact removes_removeFiles h

theorem Cleared.removes {s : Settings} {w w₁ : Workspace} (h : Cleared s w w₁) :
    w.files.Removes w₁.files := by
  by_cases hkeeps : s.clean = false ∨ s.dryRun = true
  · rw [h.eq hkeeps]
    exact .refl _
  · rw [not_or, Bool.not_eq_false, Bool.not_eq_true] at hkeeps
    exact (removes_removeEarlier (h.removed hkeeps.1 hkeeps.2)).1

/-- Contracts with names of their own leave their own bindings. -/
theorem Wrote.holds_own {s : Settings} {bound : List (String × Contract)} {fs fs' : FileSystem}
    (h : Wrote s bound fs fs') (hextension : Settings.isExtension s.extension = true)
    (hnames : ∀ b ∈ bound, Settings.isContractName b.1 = true)
    (hdistinct : (bound.map Prod.fst).Nodup) :
    ∀ b ∈ bound, fs'.contentsAt? (fs.place (s.outputPath b.1)) =
      some (.text (b.2.bindingsText s.library b.1)) := by
  intro b hb
  obtain ⟨d, hd, hplace, hcontents⟩ := h.holds b hb
  have hname : d.1 = b.1 :=
    Settings.place_outputPath_injective fs hextension (hnames d hd) (hnames b hb) hplace
  obtain rfl := List.inj_on_of_nodup_map hdistinct hd hb hname
  exact hcontents

/-- What a run that stops has done to files, unless it is a dry run: outputs of earlier runs may be
gone, where these are removed, and some of the contracts before may have been written. -/
structure Stopped (s : Settings) (before : List (String × String))
    (bound : List (String × Contract)) (fs fs' : FileSystem) : Prop where
  names : (bound.map Prod.fst).Sublist (before.map Prod.fst)
  declare : ∀ b ∈ bound, b.2.isEmpty = false
  dry : s.dryRun = true → fs' = fs
  frame : Frame (fs.placesAbove s.outputDirectory)
    {l | (s.clean = true ∧ l ∈ s.outputs fs) ∨ ∃ b ∈ bound, fs.place (s.outputPath b.1) = l} fs fs'
  /-- Where no contract has been written, a file is as it was or gone. -/
  unwritten : ∀ l, (∀ b ∈ bound, fs.place (s.outputPath b.1) ≠ l) →
    fs'.contentsAt? l = fs.contentsAt? l ∨ fs'.contentsAt? l = none
  /-- A contract that has been written has left its bindings. -/
  written : ∀ b ∈ bound, fs'.contentsAt? (fs.place (s.outputPath b.1)) =
    some (.text (b.2.bindingsText s.library b.1))

/-- A path leads to no file that declares a contract, for the reason that the error gives. -/
def FileSystem.Misdeclares (fs : FileSystem) (path : String) (e : Error) : Prop :=
  (∃ fault, fs.readText path = .error fault ∧ e = .config (.contractUnreadable path fault)) ∨
    ∃ text, fs.readText path = .ok text ∧ Contract.ofText text = .error e

/-- A fault of the file system when files are removed or written. -/
def Error.IsEffect (e : Error) : Prop :=
  (∃ fault, e = .config (.noOutputDirectory fault)) ∨ ∃ fault, e = .io fault

namespace Stopped

variable {s : Settings} {before : List (String × String)} {bound : List (String × Contract)}
variable {fs fs' fs'' : FileSystem}

/-- Directories that are made for a file which is not written count for nothing more. -/
theorem makeDirectories (h : Stopped s before bound fs fs') (hwrites : s.dryRun = false)
    (hmade : Frame (fs'.placesAbove s.outputDirectory) ∅ fs' fs'') :
    Stopped s before bound fs fs'' := by
  have hsame : ∀ l, fs''.contentsAt? l = fs'.contentsAt? l := fun l => hmade.files l (by simp)
  rw [Settings.placesAbove_congr h.frame.working] at hmade
  exact {
    names := h.names
    declare := h.declare
    dry := fun hdry => by simp [hdry] at hwrites
    frame := h.frame.trans (hmade.mono subset_rfl (Set.empty_subset _))
    unwritten := fun l hl => by
      rw [hsame l]
      exact h.unwritten l hl
    written := fun b hb => by rw [hsame, h.written b hb] }

end Stopped

/-- The contracts that are bound before a run stops, and what they and the removal leave. -/
theorem stopped_of_bindAll {s : Settings} {w w₁ w₂ : Workspace} (hvalid : s.validate = .ok ())
    (hordered : Settings.Ordered s.contracts) (hentries : w.files.EntryNames)
    (hcleared : Cleared s w w₁) {before : List (String × String)} (hfront : before <+: s.contracts)
    {paths : List String} (h : perform (bindAll s before).run w₁ = (.ok paths, w₂)) :
    ∃ bound, Stopped s before bound w.files w₂.files ∧
      (s.clean = false → bound = [] → w₂.files = w.files) := by
  obtain ⟨hnames, hextension⟩ := Settings.validate_eq_ok hvalid
  obtain ⟨bound, hsublist, hdeclare, -, hwrote⟩ := wrote_of_bindAll h
  have hbefore : (bound.map Prod.fst).Sublist (s.contracts.map Prod.fst) :=
    hsublist.trans (hfront.sublist.map Prod.fst)
  have hdistinct : (bound.map Prod.fst).Nodup :=
    (List.pairwise_map.mpr (hordered.imp fun hlt => hlt.ne)).sublist hbefore
  have hclears : Frame ∅ {l | s.clean = true ∧ l ∈ s.outputs w.files} w.files w₁.files := by
    cases hclean : s.clean with
    | true => exact (hcleared.frame hentries).mono subset_rfl fun l hl => ⟨rfl, hl⟩
    | false =>
      rw [hcleared.eq (.inl hclean)]
      exact .refl _ _ _
  have hframe := hwrote.frame
  have hholds := hwrote.holds_own hextension (fun b hb => by
    obtain ⟨e, he, hname⟩ := List.mem_map.mp (hbefore.subset (List.mem_map_of_mem hb))
    exact hname ▸ hnames e he) hdistinct
  simp only [Settings.placesAbove_congr hclears.working, hclears.place] at hframe hholds
  refine ⟨bound, ⟨hsublist, hdeclare, fun hdry => ?_, ?_, fun l hl => ?_, hholds⟩, ?_⟩
  · rw [files_of_bindAll hdry h, hcleared.eq (.inr hdry)]
  · exact (hclears.mono (Set.empty_subset _) fun l hl => .inl hl).trans
      (hframe.mono subset_rfl fun l hl => .inr hl)
  · have hunwritten : ¬ ∃ b ∈ bound, w.files.place (s.outputPath b.1) = l := by
      rintro ⟨b, hb, hplace⟩
      exact hl b hb hplace
    rw [hframe.files l hunwritten]
    exact hcleared.removes l
  · intro hclean hbound
    rw [hwrote.same hbound, hcleared.eq (.inl hclean)]

/-- A run with valid settings that stops does so by a fault of the file system, or at a contract that
is not declared. -/
theorem stopped_of_generate {s : Settings} {w w' : Workspace} {e : Error}
    (hvalid : s.validate = .ok ()) (hordered : Settings.Ordered s.contracts)
    (hentries : w.files.EntryNames) (h : perform (generate s).run w = (.error e, w')) :
    ∃ before bound, Stopped s before bound w.files w'.files ∧ before <+: s.contracts ∧
      (e.IsEffect ∨ (∃ entry rest, s.contracts = before ++ entry :: rest ∧
        w'.files.Misdeclares entry.2 e) ∧
        (s.clean = false → bound = [] → w'.files = w.files)) := by
  cases generate_outcome h with
  | refused hinvalid => simp [hvalid] at hinvalid
  | uncleared _ hclean hwrites hremoval =>
    obtain ⟨hremoves, herror⟩ := removes_removeEarlier hremoval
    have hframe := frame_removeEarlier (s := s) hentries
    rw [hremoval] at hframe
    refine ⟨[], [], ?_, List.nil_prefix, .inl (.inr (herror e rfl))⟩
    exact {
      names := List.Sublist.refl _
      declare := by simp
      dry := fun hdry => by simp [hdry] at hwrites
      frame := hframe.mono (Set.empty_subset _) fun l hl => .inl ⟨hclean, hl⟩
      unwritten := fun l _ => hremoves l
      written := by simp }
  | @bound _ w₁ _ _ hcleared hrun =>
    obtain ⟨before, entry, rest, paths, w₂, hcontracts, hbefore, hfails⟩ := bindAll_eq_error hrun
    have hfront : before <+: s.contracts := hcontracts ▸ List.prefix_append _ _
    obtain ⟨bound, hstopped, hsame⟩ :=
      stopped_of_bindAll hvalid hordered hentries hcleared hfront hbefore
    -- the contract where the run stops has written no file of its own
    cases bindContract_outcome hfails with
    | unread hread =>
      exact ⟨before, bound, hstopped, hfront,
        .inr ⟨⟨entry, rest, hcontracts, .inl ⟨_, hread, rfl⟩⟩, hsame⟩⟩
    | undeclared hread hdeclares =>
      exact ⟨before, bound, hstopped, hfront,
        .inr ⟨⟨entry, rest, hcontracts, .inr ⟨_, hread, hdeclares⟩⟩, hsame⟩⟩
    | unwritten _ _ _ hwrites hcause hmade =>
      exact ⟨before, bound, hstopped.makeDirectories hwrites hmade, hfront, .inl hcause⟩

/-! ## Commands that fail -/

/-- A command whose settings or interfaces are not accepted fails and changes nothing. One that is
accepted and fails does so by a fault of the file system when it removes or writes, or at a contract
that is not declared. By then at most outputs of earlier runs are gone and contracts before this one
have been written, whose files hold their bindings; nothing has changed in a dry run, nor at a
contract that is not declared where no earlier files are removed and nothing has been written. -/
theorem failed_commands_spare_files (a : Arguments) (w : Workspace) (hentries : w.files.EntryNames) :
    let run := perform a.run.run w
    ((∀ s, ¬ a.Accepted w s) → (∃ e, run.1 = .error e) ∧ run.2.files = w.files) ∧
      ∀ s e, a.Accepted w s → run.1 = .error e → Settings.Ordered s.contracts ∧ ∃ before bound,
        Stopped s before bound w.files run.2.files ∧ before <+: s.contracts ∧
        (e.IsEffect ∨ (∃ entry rest, s.contracts = before ++ entry :: rest ∧
          run.2.files.Misdeclares entry.2 e) ∧
          (s.clean = false → bound = [] → run.2.files = w.files)) := by
  intro run
  obtain ⟨r, w', hrun⟩ := exists_perform (a.run : ExceptT Error _ _).run w
  have hends : run = (r, w') := hrun
  rw [hends]
  refine ⟨fun hrefused => ?_, fun s e haccepted he => ?_⟩
  · cases command_outcome hrun with
    | refused _ => exact ⟨⟨_, rfl⟩, rfl⟩
    | begun haccepted _ _ => exact absurd haccepted (hrefused _)
  · cases command_outcome hrun with
    | refused hrefused => exact absurd haccepted (hrefused s)
    | @begun s' printed _ w₁ _ haccepted' hgenerate hfiles =>
      have hsettings := haccepted'.settings.symm.trans haccepted.settings
      obtain rfl : s' = s := by simpa using hsettings
      dsimp only at he ⊢
      subst he
      rw [hfiles]
      have hordered := ordered_settings haccepted.settings
      exact ⟨hordered, stopped_of_generate (w := { w with printed }) haccepted.valid hordered
        hentries hgenerate⟩

/-- An interface that is JSON and no interface stops a command that has already removed an output of
an earlier run and written the contract before. -/
theorem undeclared_contract_stops_late :
    let files : FileSystem := {
      working := ["work"]
      entries := [
        (["work"], .directory),
        (["work", "a.json"],
          .file (.text "[\x7b\"type\":\"event\",\"name\":\"Ping\",\"inputs\":[]\x7d]")),
        (["work", "b.json"], .file (.text "\x7b\x7d")),
        (["work", "out"], .directory), (["work", "out", "Old.ts"], .file (.text "old"))] }
    let a : Arguments :=
      { contracts := ["A=a.json", "B=b.json"], outputDirectory? := some "out", clean := true }
    let run := perform a.run.run { files }
    run.1.mapError Error.message = .error "Invalid ABI: ABI must be an array" ∧
      (files.contentsAt? ["work", "out", "Old.ts"]).isSome = true ∧
      (run.2.files.contentsAt? ["work", "out", "Old.ts"]).isSome = false ∧
      (files.contentsAt? ["work", "out", "A.ts"]).isSome = false ∧
      (run.2.files.contentsAt? ["work", "out", "A.ts"]).isSome = true := by
  intro files a run
  have hrun : perform a.run.run { files } = run := rfl
  clear_value run
  have hmessage : run.1.mapError Error.message = .error "Invalid ABI: ABI must be an array" := by
    rw [← hrun]
    simp only [Arguments.run, generate, bindAll_eq_foldr, bindContract_eq]
    decide +kernel
  have hremoved : (run.2.files.contentsAt? ["work", "out", "Old.ts"]).isSome = false := by
    rw [← hrun]
    simp only [Arguments.run, generate, bindAll_eq_foldr, bindContract_eq]
    decide +kernel
  have hwritten : (run.2.files.contentsAt? ["work", "out", "A.ts"]).isSome = true := by
    rw [← hrun]
    simp only [Arguments.run, generate, bindAll_eq_foldr, bindContract_eq]
    decide +kernel
  exact ⟨hmessage, rfl, hremoved, rfl, hwritten⟩

/-- Where the second of two interfaces is missing, the first is not bound and an output of an earlier
run stays. -/
theorem missing_interface_stops_first :
    let files : FileSystem := {
      working := ["work"]
      entries := [
        (["work"], .directory),
        (["work", "a.json"],
          .file (.text "[\x7b\"type\":\"event\",\"name\":\"Ping\",\"inputs\":[]\x7d]")),
        (["work", "out"], .directory), (["work", "out", "Old.ts"], .file (.text "old"))] }
    let a : Arguments :=
      { contracts := ["A=a.json", "B=b.json"], outputDirectory? := some "out", clean := true }
    let run := perform a.run.run { files }
    (∃ e, run.1 = .error e) ∧ run.2.files = files := by
  intro files a
  have hsettings : ((perform (a.settings : ExceptT Error _ _).run { files }).1.toOption.map
      Settings.contracts) = some [("A", "a.json"), ("B", "b.json")] := by decide +kernel
  have hmissing : (files.readText "b.json").toOption = none := by decide +kernel
  refine (failed_commands_spare_files a { files } (by decide +kernel)).1 fun s hs => ?_
  rw [hs.settings] at hsettings
  have hcontracts : s.contracts = [("A", "a.json"), ("B", "b.json")] := by
    simpa [Except.toOption] using hsettings
  have hmem : ("B", "b.json") ∈ s.contracts := by
    rw [hcontracts]
    exact List.mem_cons_of_mem _ (List.mem_singleton_self _)
  obtain ⟨text, v, hread, -⟩ := hs.inputs _ hmem
  simp [hread, Except.toOption] at hmissing

end AbiBindings
