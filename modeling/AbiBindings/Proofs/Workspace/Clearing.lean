import AbiBindings.Proofs.Workspace.Outputs
import Mathlib.Data.List.Induction

/-! # What is left of earlier runs

Removing files of earlier runs goes through the names in the output directory, and where this is
found, no file there has the extension afterwards (`outputs_removeEarlier`). A directory is found
when its path is not empty and does not go up, since all that is above it are directories too
(`exists?_of_isDirectoryAt`).

So a run that removes earlier files leaves those that it writes, and those that it misses as its
output directory is not found at first (`clean_run_leaves_its_files`). Some can be missed
(`outputs_in_working_directory_are_missed`). -/

namespace AbiBindings
set_option autoImplicit false

namespace FileSystem

variable {fs fs' : FileSystem}

/-! ## Closed file systems -/

/-- Everything stands in a directory. -/
def Closed (fs : FileSystem) : Prop :=
  ∀ e ∈ fs.entries, fs.isDirectoryAt e.1.dropLast = true

instance (fs : FileSystem) : Decidable fs.Closed :=
  inferInstanceAs (Decidable (∀ e ∈ fs.entries, _))

theorem mem_entries_of_get? {l : Location} {n : FileNode} (hne : l ≠ []) (h : fs.get? l = some n) :
    (l, n) ∈ fs.entries := by
  rw [get?, if_neg hne] at h
  obtain ⟨front, rest, hentries, -⟩ := List.lookup_eq_some_iff.mp h
  rw [hentries]
  exact List.mem_append_right _ List.mem_cons_self

namespace Closed

theorem isDirectoryAt_dropLast (h : fs.Closed) {l : Location} (hl : (fs.get? l).isSome = true) :
    fs.isDirectoryAt l.dropLast = true := by
  by_cases hne : l = []
  · subst hne
    rfl
  · obtain ⟨n, hn⟩ := Option.isSome_iff_exists.mp hl
    exact h _ (mem_entries_of_get? hne hn)

theorem isDirectoryAt_of_prefix (h : fs.Closed) {k l : Location} (hk : k <+: l)
    (hl : fs.isDirectoryAt l = true) : fs.isDirectoryAt k = true := by
  obtain ⟨below, rfl⟩ := hk
  induction below using List.reverseRecOn with
  | nil => simpa using hl
  | append_singleton below name ih =>
    have habove := h.isDirectoryAt_dropLast (isSome_get?_of_isDirectoryAt hl)
    rw [← List.append_assoc, List.dropLast_concat] at habove
    exact ih habove

end Closed

theorem prefix_foldl_step {segments : List String} (hup : ".." ∉ segments) (l : Location) :
    l <+: segments.foldl step l := by
  induction segments generalizing l with
  | nil => exact List.prefix_rfl
  | cons segment rest ih =>
    rw [List.mem_cons, not_or] at hup
    have hfirst : l <+: step l segment := by
      rw [step, if_neg (Ne.symm hup.1)]
      split
      · exact List.prefix_rfl
      · exact List.prefix_append l [segment]
    exact hfirst.trans (ih hup.2 (step l segment))

/-- A walk that does not go up succeeds when there are directories all the way. -/
theorem foldlM_enter_of_directories {segments : List String} (hup : ".." ∉ segments) {l : Location}
    (hdirs : ∀ k, k <+: segments.foldl step l → fs.isDirectoryAt k = true) :
    segments.foldlM fs.enter l = .ok (segments.foldl step l) := by
  induction segments generalizing l with
  | nil => rfl
  | cons segment rest ih =>
    have hdir := hdirs l (prefix_foldl_step hup l)
    rw [List.mem_cons, not_or] at hup
    have hnext := hdirs (step l segment) (prefix_foldl_step hup.2 _)
    rw [List.foldlM_cons]
    refine bind_eq_ok_iff.mpr ⟨step l segment, ?_, ih hup.2 hdirs⟩
    exact enter_eq_ok_iff.mpr ⟨hdir, rfl, fun _ _ => isSome_get?_of_isDirectoryAt hnext⟩

theorem exists?_of_isDirectoryAt (h : fs.Closed) {path : String} (hne : path ≠ "")
    (hup : ".." ∉ pathSegments path) (hdir : fs.isDirectoryAt (fs.place path) = true) :
    fs.exists? path = .ok true := by
  have hwalk : (pathSegments path).foldlM fs.enter (fs.origin path) = .ok (fs.place path) :=
    foldlM_enter_of_directories hup fun k hk => h.isDirectoryAt_of_prefix hk hdir
  have hlocate : fs.locate path = .ok (fs.place path) :=
    locate_eq_ok_iff.mpr ⟨hne, hwalk, fun _ => hdir⟩
  rw [exists?, hlocate]

/-! ## Listing and removing -/

theorem mem_list {path name : String} {listed : List (String × Bool)} {c : Contents}
    (hlist : fs.list path = .ok listed) (hc : fs.contentsAt? (fs.place path ++ [name]) = some c) :
    (name, true) ∈ listed := by
  obtain ⟨l, hlocate, hlist⟩ := bind_eq_ok_iff.mp hlist
  obtain rfl := locate_eq_place hlocate
  split at hlist
  · simp [throw, throwThe, MonadExceptOf.throw, bind, Except.bind] at hlist
  · obtain rfl := Except.ok.inj hlist
    have hmem := mem_entries_of_get? (by simp) (contentsAt?_eq_some_iff.mp hc)
    exact List.mem_filterMap.mpr ⟨_, hmem, by simp⟩

end FileSystem

open FileSystem

/-- What is removed in turn is gone, and the rest stays. -/
theorem contentsAt?_removeFiles {α : Type} {items : List α} {path : α → String} {w w' : Workspace}
    (h : perform (items.forM fun i =>
      orFail (m := StateM Workspace) Error.io (Access.removeFile (path i))).run w = (.ok (), w'))
    (l : Location) : w'.files.contentsAt? l =
      if ∃ i ∈ items, w.files.place (path i) = l then none else w.files.contentsAt? l := by
  induction items generalizing w with
  | nil =>
    cases h
    simp
  | cons i rest ih =>
    rw [perform_removeFiles_cons] at h
    split at h
    · simp at h
    · rename_i files hremove
      have hplace : ∀ q, files.place q = w.files.place q := (frame_removeFile hremove).place
      rw [ih h]
      dsimp only
      simp only [hplace, contentsAt?_removeFile hremove, List.mem_cons, exists_eq_or_imp]
      by_cases hi : w.files.place (path i) = l
      · simp [hi]
      · simp [hi]

/-- No output is left by a removal of earlier files, unless the output directory is not found. -/
theorem outputs_removeEarlier {s : Settings} {w w' : Workspace} (hentries : w.files.EntryNames)
    (h : perform (removeEarlier s).run w = (.ok (), w')) :
    (w.files.exists? s.outputDirectory = .ok true ∧
        ∀ l ∈ s.outputs w.files, w'.files.contentsAt? l = none) ∨
      (w.files.exists? s.outputDirectory = .ok false ∧ w' = w) := by
  rw [perform_removeEarlier] at h
  split at h
  · simp at h
  · rename_i hfound
    cases h
    exact .inr ⟨hfound, rfl⟩
  · rename_i hfound
    split at h
    · simp at h
    · rename_i listed hlist
      refine .inl ⟨hfound, ?_⟩
      rintro l ⟨name, hextension, rfl⟩
      rw [contentsAt?_removeFiles h]
      split
      · rfl
      · rename_i hkept
        -- a file that is there is listed, and so removed
        cases hc : w.files.contentsAt? (w.files.place s.outputDirectory ++ [name]) with
        | none => rfl
        | some c =>
          have hmem := mem_list hlist hc
          have hearlier : (name, true) ∈ s.earlier listed := by
            rw [Settings.earlier, List.mem_filter]
            exact ⟨hmem, by simp [hextension]⟩
          have hname := isEntryName_of_mem_list hentries hlist hmem
          exact absurd ⟨_, hearlier, place_join _ _ hname⟩ hkept

/-! ## Runs that remove earlier files -/

/-- The locations among some at which files stand. -/
def FileSystem.filesAmong (fs : FileSystem) (locations : Set Location) : Set Location :=
  {l | l ∈ locations ∧ (fs.contentsAt? l).isSome = true}

/-- The outputs that a removal of earlier files misses, as it does not find their directory. -/
def Settings.missed (s : Settings) (fs : FileSystem) : Set Location :=
  {l | l ∈ fs.filesAmong (s.outputs fs) ∧ fs.exists? s.outputDirectory = .ok false}

theorem Settings.missed_eq_empty {s : Settings} {fs : FileSystem} (hclosed : fs.Closed)
    (hne : s.outputDirectory ≠ "") (hup : ".." ∉ pathSegments s.outputDirectory) :
    s.missed fs = ∅ := by
  refine Set.eq_empty_of_forall_notMem ?_
  rintro l ⟨⟨⟨name, -, rfl⟩, hsome⟩, hlost⟩
  obtain ⟨c, hc⟩ := Option.isSome_iff_exists.mp hsome
  have hdir := hclosed.isDirectoryAt_dropLast (isSome_get?_of_contentsAt? hc)
  rw [List.dropLast_concat] at hdir
  simp [exists?_of_isDirectoryAt hclosed hne hup hdir] at hlost

/-- After a removal of earlier files, the outputs are those that it has missed. -/
theorem Cleared.filesAmong_outputs {s : Settings} {w w₁ : Workspace} (h : Cleared s w w₁)
    (hclean : s.clean = true) (hwrites : s.dryRun = false) (hentries : w.files.EntryNames) :
    w₁.files.filesAmong (s.outputs w.files) = s.missed w.files := by
  ext l
  rcases outputs_removeEarlier hentries (h.removed hclean hwrites) with
    ⟨hfound, hnone⟩ | ⟨hlost, rfl⟩
  · constructor
    · rintro ⟨hl, hsome⟩
      simp [hnone l hl] at hsome
    · rintro ⟨-, hlost⟩
      simp [hfound] at hlost
  · exact ⟨fun hl => ⟨hl, hlost⟩, fun hl => hl.1⟩

/-- What is written joins the outputs that are there. -/
theorem Wrote.filesAmong_outputs {s : Settings} {bound : List (String × Contract)}
    {fs fs' : FileSystem} (h : Wrote s bound fs fs')
    (houtputs : ∀ b ∈ bound, fs.place (s.outputPath b.1) ∈ s.outputs fs) :
    fs'.filesAmong (s.outputs fs) =
      {l | ∃ path ∈ bound.map fun b => s.outputPath b.1, fs'.locate path = .ok l} ∪
        fs.filesAmong (s.outputs fs) := by
  ext l
  rw [Set.mem_union]
  by_cases hwritten : ∃ b ∈ bound, fs.place (s.outputPath b.1) = l
  · obtain ⟨b, hb, rfl⟩ := hwritten
    obtain ⟨d, -, -, hcontents⟩ := h.holds b hb
    have hsome : (fs'.contentsAt? (fs.place (s.outputPath b.1))).isSome = true := by
      rw [hcontents]
      rfl
    exact iff_of_true ⟨houtputs b hb, hsome⟩
      (.inl ⟨_, List.mem_map_of_mem hb, h.located b hb⟩)
  · have hunlocated : l ∉
        {l | ∃ path ∈ bound.map fun b => s.outputPath b.1, fs'.locate path = .ok l} := by
      rintro ⟨path, hpath, hlocate⟩
      obtain ⟨b, hb, rfl⟩ := List.mem_map.mp hpath
      rw [h.located b hb] at hlocate
      exact hwritten ⟨b, hb, Except.ok.inj hlocate⟩
    rw [or_iff_right hunlocated, filesAmong, filesAmong]
    show _ ∧ (fs'.contentsAt? l).isSome = true ↔ _ ∧ (fs.contentsAt? l).isSome = true
    rw [h.frame.files l hwritten]

/-- When a run that removes earlier files and writes succeeds, the files in the output directory
whose names have the extension are those that it writes and those that the removal has missed, and
nothing else changes. It misses none when the path of the output directory is not empty and does not
go up. So no file is left that accepted settings with the same output directory and extension may
have written for a contract that is no longer there. -/
theorem clean_run_leaves_its_files {s : Settings} (hclean : s.clean = true)
    (hwrites : s.dryRun = false) {w w' : Workspace} (hentries : w.files.EntryNames)
    (hclosed : w.files.Closed) {paths : List String}
    (h : perform (generate s).run w = (.ok paths, w')) :
    w'.files.filesAmong (s.outputs w.files) =
        {l | ∃ path ∈ paths, w'.files.locate path = .ok l} ∪ s.missed w.files ∧
      (s.outputDirectory ≠ "" → ".." ∉ pathSegments s.outputDirectory → s.missed w.files = ∅) ∧
      (∀ earlier : Settings, earlier.validate = .ok () →
        earlier.outputDirectory = s.outputDirectory → earlier.extension = s.extension →
        ∀ e ∈ earlier.contracts, e.1 ∉ s.contracts.map Prod.fst →
          w.files.place (earlier.outputPath e.1) ∉ s.missed w.files →
          w'.files.contentsAt? (w.files.place (earlier.outputPath e.1)) = none) ∧
      Frame (w.files.placesAbove s.outputDirectory) (s.outputs w.files) w.files w'.files := by
  cases generate_outcome h with
  | @bound _ w₁ _ hvalid hcleared hrun =>
    obtain ⟨hnames, hextension⟩ := Settings.validate_eq_ok hvalid
    obtain ⟨bound, hsublist, -, rfl, hwrote⟩ := wrote_of_bindAll hrun
    have hclears := hcleared.frame hentries
    have hcontract : ∀ b ∈ bound, ∃ e ∈ s.contracts, e.1 = b.1 := fun b hb =>
      List.mem_map.mp (hsublist.subset (List.mem_map_of_mem hb))
    have hvalidName : ∀ b ∈ bound, Settings.isContractName b.1 = true := by
      intro b hb
      obtain ⟨e, he, hname⟩ := hcontract b hb
      exact hname ▸ hnames e he
    have hleft := hwrote.filesAmong_outputs fun b hb =>
      Settings.place_outputPath_mem_outputs w₁.files (hvalidName b hb) hextension
    rw [Settings.outputs_congr hclears.working,
      hcleared.filesAmong_outputs hclean hwrites hentries] at hleft
    refine ⟨hleft, Settings.missed_eq_empty hclosed, ?_, ?_⟩
    · intro earlier hearlier hdirectory hsame e he hgone hmissed
      have hpath : earlier.outputPath e.1 = s.outputPath e.1 := by
        rw [Settings.outputPath, Settings.outputPath, hdirectory, hsame]
      rw [hpath] at hmissed ⊢
      have hname := (Settings.validate_eq_ok hearlier).1 e he
      have houtput := Settings.place_outputPath_mem_outputs w.files hname hextension
      rw [← Option.not_isSome_iff_eq_none]
      intro hsome
      rcases hleft.subset ⟨houtput, hsome⟩ with ⟨path, hpath, hlocate⟩ | hl
      · -- an output that is written has the name of a contract that is there
        obtain ⟨b, hb, rfl⟩ := List.mem_map.mp hpath
        obtain ⟨d, hd, hdb⟩ := hcontract b hb
        rw [hwrote.located b hb, Except.ok.injEq, hclears.place] at hlocate
        have heq := Settings.place_outputPath_injective w.files hextension (hvalidName b hb) hname
          hlocate
        exact hgone (List.mem_map.mpr ⟨d, hd, hdb.trans heq⟩)
      · exact hmissed hl
    · have hframe := hwrote.frame
      simp only [Settings.placesAbove_congr hclears.working, hclears.place] at hframe
      refine (hclears.mono (Set.empty_subset _) subset_rfl).trans (hframe.mono subset_rfl ?_)
      rintro l ⟨b, hb, rfl⟩
      exact Settings.place_outputPath_mem_outputs w.files (hvalidName b hb) hextension

/-- A run that removes earlier files and writes in the working directory, where the path of the
output directory is empty, leaves an output of an earlier run. -/
theorem outputs_in_working_directory_are_missed :
    let files : FileSystem := {
      working := ["work"]
      entries := [
        (["work"], .directory), (["work", "Pong.ts"], .file (.text "old")),
        (["work", "ping.json"],
          .file (.text "[\x7b\"type\":\"event\",\"name\":\"Ping\",\"inputs\":[]\x7d]"))] }
    let s : Settings :=
      { outputDirectory := "", clean := true, contracts := [("Ping", "ping.json")] }
    let run := perform (generate s).run { files }
    run.1.toOption = some ["Ping.ts"] ∧
      (run.2.files.contentsAt? ["work", "Pong.ts"]).isSome = true ∧
      run.2.files.filesAmong (s.outputs files) ≠
        {l | ∃ path ∈ ["Ping.ts"], run.2.files.locate path = .ok l} := by
  intro files s run
  have hrun : perform (generate s).run { files } = run := rfl
  clear_value run
  have hresult : run.1.toOption = some ["Ping.ts"] := by
    simp only [← hrun, generate, s, bindAll, bindContract_eq]
    decide +kernel
  have hleft : (run.2.files.contentsAt? ["work", "Pong.ts"]).isSome = true := by
    simp only [← hrun, generate, s, bindAll, bindContract_eq]
    decide +kernel
  have hworking : run.2.files.working = ["work"] := by
    simp only [← hrun, generate, s, bindAll, bindContract_eq]
    decide +kernel
  refine ⟨hresult, hleft, fun hsame => ?_⟩
  have houtput : ["work", "Pong.ts"] ∈ s.outputs files := ⟨"Pong.ts", by decide +kernel, rfl⟩
  obtain ⟨path, hpath, hlocate⟩ := hsame.subset ⟨houtput, hleft⟩
  obtain rfl := List.mem_singleton.mp hpath
  have hplace : ["work", "Pong.ts"] = files.place "Ping.ts" :=
    (locate_eq_place hlocate).trans (place_congr hworking "Ping.ts")
  exact absurd hplace (by decide +kernel)

/-- An earlier output goes, and a directory that is named like one stays with what is in it. -/
theorem clean_run_of_ping :
    let files : FileSystem := {
      working := ["work"]
      entries := [
        (["work"], .directory),
        (["work", "ping.json"],
          .file (.text "[\x7b\"type\":\"event\",\"name\":\"Ping\",\"inputs\":[]\x7d]")),
        (["work", "out"], .directory), (["work", "out", "Pong.ts"], .file (.text "old")),
        (["work", "out", "Sub.ts"], .directory),
        (["work", "out", "Sub.ts", "Pong.ts"], .file (.text "kept"))] }
    let s : Settings :=
      { outputDirectory := "out", clean := true, contracts := [("Ping", "ping.json")] }
    let run := perform (generate s).run { files }
    run.1.toOption = some ["out/Ping.ts"] ∧
      run.2.files.filesAmong (s.outputs files) =
        {l | ∃ path ∈ ["out/Ping.ts"], run.2.files.locate path = .ok l} ∧
      run.2.files.isDirectoryAt ["work", "out", "Sub.ts"] = true ∧
      run.2.files.contentsAt? ["work", "out", "Sub.ts", "Pong.ts"] = some (.text "kept") := by
  intro files s run
  have hrun : perform (generate s).run { files } = run := rfl
  clear_value run
  have hresult : run.1.toOption = some ["out/Ping.ts"] := by
    simp only [← hrun, generate, s, bindAll, bindContract_eq]
    decide +kernel
  obtain ⟨r, w'⟩ := run
  obtain rfl := toOption_eq_some_iff.mp hresult
  obtain ⟨hleft, hmissed, -, hframe⟩ :=
    clean_run_leaves_its_files (s := s) (w := { files }) rfl rfl (by decide +kernel)
      (by decide +kernel) hrun
  rw [hmissed (by decide) (by decide +kernel), Set.union_empty] at hleft
  have hinside : ["work", "out", "Sub.ts", "Pong.ts"] ∉ s.outputs files := by
    rintro ⟨name, -, hplace⟩
    have hout : files.place s.outputDirectory = ["work", "out"] := by decide +kernel
    rw [hout] at hplace
    simp at hplace
  exact ⟨hresult, hleft, hframe.kept _ (by decide +kernel), hframe.files _ hinside⟩

end AbiBindings
