import AbiBindings.Proofs.Workspace.Outcomes
import AbiBindings.Proofs.Workspace.Settings
import Mathlib.Data.List.Nodup

/-! # What a successful run writes

The contracts that have something to bind are told by the files as they are before the run
(`boundContracts`). Binding some in turn writes their output files and nothing else (`Bound`), and
goes on with others as long as their interfaces are read as before (`Bound.append`). They are, since
outputs have places of their own, below the output directory and apart from each other and from the
interfaces (`bindAll_eq_ok`). Together with the removal of earlier files this gives what a whole run
does (`generate_writes_bindings`). -/

namespace AbiBindings
set_option autoImplicit false

open FileSystem

/-! ## Contracts in files -/

namespace FileSystem

variable {fs fs' : FileSystem} {made written : Set Location}

/-- The contract that a file declares. -/
def contractAt? (fs : FileSystem) (path : String) : Option Contract :=
  match fs.readText path with
  | .ok text => (Contract.ofText text).toOption
  | .error _ => none

/-- A file stands where the path leads to. -/
def DenotesFile (fs : FileSystem) (path : String) : Prop :=
  ∃ l c, fs.locate path = .ok l ∧ fs.contentsAt? l = some c

/-- The contracts that have something to bind, by their names. -/
def boundContracts (fs : FileSystem) (entries : List (String × String)) :
    List (String × Contract) :=
  entries.filterMap fun e =>
    ((fs.contractAt? e.2).filter fun c => !c.isEmpty).map fun c => (e.1, c)

theorem contractAt?_of_ok {path text : String} {c : Contract} (hread : fs.readText path = .ok text)
    (hc : Contract.ofText text = .ok c) : fs.contractAt? path = some c := by
  rw [contractAt?, hread]
  simp [hc, Except.toOption]

theorem DenotesFile.frame {path : String} (h : fs.DenotesFile path)
    (hframe : Frame made written fs fs') (hplace : fs.place path ∉ written) :
    fs'.DenotesFile path ∧ fs'.contractAt? path = fs.contractAt? path := by
  obtain ⟨l, c, hlocate, hc⟩ := h
  rw [← locate_eq_place hlocate] at hplace
  have hlocate' := hframe.locate hplace hc hlocate
  have hc' := (hframe.files l hplace).trans hc
  refine ⟨⟨l, c, hlocate', hc'⟩, ?_⟩
  rw [contractAt?, contractAt?, readText_of_contentsAt? hlocate hc,
    readText_of_contentsAt? hlocate' hc']

theorem boundContracts_congr {entries : List (String × String)}
    (h : ∀ e ∈ entries, fs'.contractAt? e.2 = fs.contractAt? e.2) :
    fs'.boundContracts entries = fs.boundContracts entries :=
  List.filterMap_congr fun e he => by rw [h e he]

theorem boundContracts_append (fs : FileSystem) (entries others : List (String × String)) :
    fs.boundContracts (entries ++ others) =
      fs.boundContracts entries ++ fs.boundContracts others :=
  List.filterMap_append

theorem boundContracts_singleton {e : String × String} {c : Contract}
    (h : fs.contractAt? e.2 = some c) :
    fs.boundContracts [e] = if c.isEmpty then [] else [(e.1, c)] := by
  rw [boundContracts, List.filterMap_cons, h]
  cases hempty : c.isEmpty with
  | true => simp [Option.filter, hempty]
  | false => simp [Option.filter, hempty]

/-- The names of the contracts that are bound are among those of the entries, in their order. -/
theorem names_boundContracts_sublist (fs : FileSystem) (entries : List (String × String)) :
    ((fs.boundContracts entries).map Prod.fst).Sublist (entries.map Prod.fst) := by
  induction entries with
  | nil => exact List.Sublist.refl _
  | cons e entries ih =>
    rw [boundContracts, List.filterMap_cons]
    split
    · exact ih.cons _
    · rename_i b hb
      obtain ⟨c, -, rfl⟩ := Option.map_eq_some_iff.mp hb
      exact ih.cons_cons _

theorem exists_mem_of_mem_boundContracts {entries : List (String × String)} {b : String × Contract}
    (hb : b ∈ fs.boundContracts entries) : ∃ e ∈ entries, e.1 = b.1 :=
  List.mem_map.mp <| (names_boundContracts_sublist fs entries).subset (List.mem_map_of_mem hb)

end FileSystem

/-! ## Output files -/

namespace Settings

variable {s : Settings}

theorem place_outputPath_mem_outputs (fs : FileSystem) {contract : String}
    (hcontract : isContractName contract = true) (hextension : isExtension s.extension = true) :
    fs.place (s.outputPath contract) ∈ s.outputs fs :=
  ⟨s.outputName contract, extension?_outputName hcontract hextension,
    place_outputPath fs hcontract hextension⟩

theorem place_outputPath_injective (fs : FileSystem) (hextension : isExtension s.extension = true)
    {contract other : String} (hcontract : isContractName contract = true)
    (hother : isContractName other = true)
    (h : fs.place (s.outputPath contract) = fs.place (s.outputPath other)) : contract = other := by
  rw [place_outputPath fs hcontract hextension, place_outputPath fs hother hextension] at h
  have hname : s.outputName contract = s.outputName other := by simpa using h
  simpa [outputName] using hname

theorem nodup_outputPaths (fs : FileSystem) (hextension : isExtension s.extension = true)
    {contracts : List String} (hcontracts : ∀ c ∈ contracts, isContractName c = true)
    (hdistinct : contracts.Nodup) : (contracts.map s.outputPath).Nodup :=
  hdistinct.map_on fun c hc d hd heq =>
    place_outputPath_injective fs hextension (hcontracts c hc) (hcontracts d hd)
      (congrArg fs.place heq)

end Settings

/-! ## Binding in turn -/

/-- What binding some contracts in turn has done: the paths are those of the bound contracts, only
these outputs have changed and only directories above them are new, and each output holds the
bindings of its contract. -/
structure Bound (s : Settings) (entries : List (String × String)) (paths : List String)
    (fs fs' : FileSystem) : Prop where
  declared : ∀ e ∈ entries, (fs.contractAt? e.2).isSome = true
  paths_eq : paths = (fs.boundContracts entries).map fun b => s.outputPath b.1
  frame : Frame (fs.placesAbove s.outputDirectory) {l | ∃ p ∈ paths, fs.place p = l} fs fs'
  written : ∀ b ∈ fs.boundContracts entries,
    fs'.readText (s.outputPath b.1) = .ok (b.2.bindingsText s.library b.1)

namespace Bound

variable {s : Settings} {entries others : List (String × String)} {paths more : List String}
variable {fs fs₁ fs₂ : FileSystem}

/-- What is written are outputs. -/
theorem places_subset_outputs (h : Bound s entries paths fs fs₁)
    (hextension : Settings.isExtension s.extension = true)
    (hnames : ∀ e ∈ entries, Settings.isContractName e.1 = true) :
    {l | ∃ p ∈ paths, fs.place p = l} ⊆ s.outputs fs := by
  rintro l ⟨p, hp, rfl⟩
  rw [h.paths_eq] at hp
  obtain ⟨b, hb, rfl⟩ := List.mem_map.mp hp
  obtain ⟨e, he, hname⟩ := exists_mem_of_mem_boundContracts hb
  exact Settings.place_outputPath_mem_outputs fs (hname ▸ hnames e he) hextension

/-- Outputs of other names are other files. -/
theorem place_outputPath_not_mem (h : Bound s others more fs fs₁)
    (hextension : Settings.isExtension s.extension = true)
    (hnames : ∀ e ∈ others, Settings.isContractName e.1 = true) {contract : String}
    (hcontract : Settings.isContractName contract = true)
    (hother : contract ∉ others.map Prod.fst) :
    fs.place (s.outputPath contract) ∉ {l | ∃ p ∈ more, fs.place p = l} := by
  rintro ⟨p, hp, hplace⟩
  rw [h.paths_eq] at hp
  obtain ⟨b, hb, rfl⟩ := List.mem_map.mp hp
  obtain ⟨e, he, hname⟩ := exists_mem_of_mem_boundContracts hb
  have heq : b.1 = contract :=
    Settings.place_outputPath_injective fs hextension (hname ▸ hnames e he) hcontract hplace
  exact hother (List.mem_map.mpr ⟨e, he, hname.trans heq⟩)

/-- Binding goes on where the interfaces that follow are read as before. -/
theorem append (hextension : Settings.isExtension s.extension = true)
    (hnames : ∀ e ∈ entries ++ others, Settings.isContractName e.1 = true)
    (hdistinct : ((entries ++ others).map Prod.fst).Nodup) (hfirst : Bound s entries paths fs fs₁)
    (hsecond : Bound s others more fs₁ fs₂)
    (hsame : ∀ e ∈ others, fs₁.contractAt? e.2 = fs.contractAt? e.2) :
    Bound s (entries ++ others) (paths ++ more) fs fs₂ := by
  obtain ⟨hnames₁, hnames₂⟩ := List.forall_mem_append.mp hnames
  have hcongr := boundContracts_congr hsame
  have hframe := hsecond.frame
  simp only [Settings.placesAbove_congr hfirst.frame.working, hfirst.frame.place] at hframe
  refine ⟨?_, ?_, ?_, ?_⟩
  · refine List.forall_mem_append.mpr ⟨hfirst.declared, fun e he => ?_⟩
    rw [← hsame e he]
    exact hsecond.declared e he
  · rw [boundContracts_append, List.map_append, ← hfirst.paths_eq, ← hcongr, ← hsecond.paths_eq]
  · refine (hfirst.frame.mono subset_rfl ?_).trans (hframe.mono subset_rfl ?_)
    · rintro l ⟨p, hp, rfl⟩
      exact ⟨p, List.mem_append_left _ hp, rfl⟩
    · rintro l ⟨p, hp, rfl⟩
      exact ⟨p, List.mem_append_right _ hp, rfl⟩
  · rw [boundContracts_append, ← hcongr]
    refine List.forall_mem_append.mpr ⟨fun b hb => ?_, hsecond.written⟩
    obtain ⟨e, he, hname⟩ := exists_mem_of_mem_boundContracts hb
    rw [List.map_append] at hdistinct
    have hother : b.1 ∉ others.map Prod.fst :=
      List.disjoint_of_nodup_append hdistinct (List.mem_map.mpr ⟨e, he, hname⟩)
    exact hsecond.frame.readText
      (hsecond.place_outputPath_not_mem hextension hnames₂ (hname ▸ hnames₁ e he) hother)
      (hfirst.written b hb)

end Bound

theorem bound_of_bindContract {s : Settings} (hdry : s.dryRun = false) {contract path : String}
    {w w' : Workspace} {written? : Option String}
    (h : perform (bindContract s contract path).run w = (.ok written?, w')) :
    Bound s [(contract, path)] written?.toList w.files w'.files := by
  cases bindContract_outcome h with
  | skipped hread hdeclares hempty hfiles hprinted =>
    have hdeclared := contractAt?_of_ok hread hdeclares
    have hbound := boundContracts_singleton (e := (contract, path)) hdeclared
    rw [hempty, if_pos rfl] at hbound
    refine ⟨by simp [hdeclared], by rw [hbound]; rfl, ?_, by simp [hbound]⟩
    rw [hfiles]
    exact .refl _ _ _
  | shown hread hdeclares hempty hshows hfiles hprinted => simp [hdry] at hshows
  | written hread hdeclares hempty hwrites hmade hwrite =>
    have hdeclared := contractAt?_of_ok hread hdeclares
    have hbound := boundContracts_singleton (e := (contract, path)) hdeclared
    rw [hempty, if_neg Bool.false_ne_true] at hbound
    refine ⟨by simp [hdeclared], by rw [hbound]; rfl, ?_, ?_⟩
    · refine (Wrote.single hmade hwrite).frame.mono subset_rfl ?_
      rintro l ⟨b, hb, rfl⟩
      obtain rfl := List.mem_singleton.mp hb
      exact ⟨_, List.mem_singleton_self _, rfl⟩
    · rw [hbound]
      exact List.forall_mem_singleton.mpr (readText_writeText hwrite)

theorem bindAll_eq_ok {s : Settings} (hdry : s.dryRun = false)
    (hextension : Settings.isExtension s.extension = true) {entries : List (String × String)}
    {w w' : Workspace} {paths : List String}
    (hnames : ∀ e ∈ entries, Settings.isContractName e.1 = true)
    (hdistinct : (entries.map Prod.fst).Nodup)
    (hfiles : ∀ e ∈ entries, w.files.DenotesFile e.2 ∧ w.files.place e.2 ∉ s.outputs w.files)
    (h : perform (bindAll s entries).run w = (.ok paths, w')) :
    Bound s entries paths w.files w'.files := by
  induction entries generalizing w paths with
  | nil =>
    obtain ⟨rfl, rfl⟩ := perform_pure_eq_ok.mp h
    exact ⟨by simp, rfl, .refl _ _ _, by simp [boundContracts]⟩
  | cons e rest ih =>
    obtain ⟨written?, others, w₁, hbind, hrest, rfl⟩ := bindAll_cons_eq_ok.mp h
    obtain ⟨hname, hnames'⟩ := List.forall_mem_cons.mp hnames
    have hone := bound_of_bindContract hdry hbind
    -- this contract changes an output, and no interface stands there
    have hwritten := hone.places_subset_outputs hextension (List.forall_mem_singleton.mpr hname)
    have hkept : ∀ e ∈ rest, w₁.files.DenotesFile e.2 ∧
        w₁.files.contractAt? e.2 = w.files.contractAt? e.2 := fun e he =>
      have hfile := hfiles e (List.mem_cons_of_mem _ he)
      hfile.1.frame hone.frame fun hmem => hfile.2 (hwritten hmem)
    have hbound := ih hnames' (List.nodup_cons.mp hdistinct).2
      (fun e he => ⟨(hkept e he).1, by
        rw [hone.frame.place, Settings.outputs_congr hone.frame.working]
        exact (hfiles e (List.mem_cons_of_mem _ he)).2⟩) hrest
    exact Bound.append hextension hnames hdistinct hone hbound fun e he => (hkept e he).2

/-! ## Whole runs -/

theorem Settings.not_mem_outputs {s : Settings} {fs : FileSystem} {l : Location}
    (h : ¬ fs.place s.outputDirectory <+: l) : l ∉ s.outputs fs := by
  rintro ⟨name, -, rfl⟩
  exact h (List.prefix_append _ _)

/-- A run that writes and succeeds has settings that are valid, may have removed outputs of earlier
runs, and binds in what this leaves. The interfaces are read as they were, wherever files were
removed, when each is a file outside the output directory. -/
theorem bound_of_generate {s : Settings} {w w' : Workspace} {paths : List String}
    (hwrites : s.dryRun = false) (hordered : Settings.Ordered s.contracts)
    (hentries : w.files.EntryNames)
    (hfiles : ∀ e ∈ s.contracts, ∃ l c, w.files.locate e.2 = .ok l ∧
      w.files.contentsAt? l = some c ∧ ¬ w.files.place s.outputDirectory <+: l)
    (hrun : perform (generate s).run w = (.ok paths, w')) :
    s.validate = .ok () ∧ ∃ w₁, Frame ∅ (s.outputs w.files) w.files w₁.files ∧
      (s.clean = false → w₁ = w) ∧
      (∀ e ∈ s.contracts, w₁.files.contractAt? e.2 = w.files.contractAt? e.2) ∧
      Bound s s.contracts paths w₁.files w'.files := by
  cases generate_outcome hrun with
  | @bound _ w₁ _ hvalid hcleared hbindAll =>
    obtain ⟨hnames, hextension⟩ := Settings.validate_eq_ok hvalid
    have hframe := hcleared.frame hentries
    have hdenotes : ∀ e ∈ s.contracts,
        w.files.DenotesFile e.2 ∧ w.files.place e.2 ∉ s.outputs w.files := by
      intro e he
      obtain ⟨l, c, hlocate, hc, houtside⟩ := hfiles e he
      rw [← locate_eq_place hlocate]
      exact ⟨⟨l, c, hlocate, hc⟩, Settings.not_mem_outputs houtside⟩
    have hkept : ∀ e ∈ s.contracts, w₁.files.DenotesFile e.2 ∧
        w₁.files.contractAt? e.2 = w.files.contractAt? e.2 := fun e he =>
      (hdenotes e he).1.frame hframe (hdenotes e he).2
    have hdistinct : (s.contracts.map Prod.fst).Nodup :=
      List.pairwise_map.mpr (hordered.imp fun hlt => hlt.ne)
    have hbound := bindAll_eq_ok hwrites hextension hnames hdistinct
      (fun e he => ⟨(hkept e he).1, by
        rw [hframe.place, Settings.outputs_congr hframe.working]
        exact (hdenotes e he).2⟩) hbindAll
    exact ⟨hvalid, w₁, hframe, fun hclean => hcleared.eq (.inl hclean),
      fun e he => (hkept e he).2, hbound⟩

/-- A run that writes and succeeds has read every interface as it was before, when each is a file
outside the output directory. It gives the output paths of just those contracts that have something
to bind, in the order of their names and each once, and each of these files then holds the bindings
of its contract. No other file has changed but those in the output directory whose names have the
extension, and without a removal of earlier files not even these. No directory is gone, and the new
ones are the output directory or above it. -/
theorem generate_writes_bindings {s : Settings} {w w' : Workspace} {paths : List String}
    (hwrites : s.dryRun = false) (hordered : Settings.Ordered s.contracts)
    (hentries : w.files.EntryNames)
    (hfiles : ∀ e ∈ s.contracts, ∃ l c, w.files.locate e.2 = .ok l ∧
      w.files.contentsAt? l = some c ∧ ¬ w.files.place s.outputDirectory <+: l)
    (hrun : perform (generate s).run w = (.ok paths, w')) :
    let bound := w.files.boundContracts s.contracts
    (∀ e ∈ s.contracts, (w.files.contractAt? e.2).isSome = true) ∧
      paths = bound.map (fun b => s.outputPath b.1) ∧
      (bound.map Prod.fst).Pairwise (· < ·) ∧ paths.Nodup ∧
      (∀ b ∈ bound,
        w'.files.readText (s.outputPath b.1) = .ok (b.2.bindingsText s.library b.1)) ∧
      Frame (w.files.placesAbove s.outputDirectory) (s.outputs w.files) w.files w'.files ∧
      (s.clean = false →
        Frame (w.files.placesAbove s.outputDirectory) {l | ∃ p ∈ paths, w.files.place p = l}
          w.files w'.files) := by
  intro bound
  obtain ⟨hvalid, w₁, hcleaned, hunclean, hkept, hbound⟩ :=
    bound_of_generate hwrites hordered hentries hfiles hrun
  obtain ⟨hnames, hextension⟩ := Settings.validate_eq_ok hvalid
  have hordered' : (s.contracts.map Prod.fst).Pairwise (· < ·) := List.pairwise_map.mpr hordered
  have hsame : w₁.files.boundContracts s.contracts = bound :=
    boundContracts_congr hkept
  have hpaths : paths = bound.map fun b => s.outputPath b.1 := by
    rw [hbound.paths_eq, hsame]
  have hnames' := names_boundContracts_sublist w.files s.contracts
  have hincreasing : (bound.map Prod.fst).Pairwise (· < ·) := hordered'.sublist hnames'
  have hframe := hbound.frame
  have houtputs := hbound.places_subset_outputs hextension hnames
  simp only [Settings.placesAbove_congr hcleaned.working, hcleaned.place,
    Settings.outputs_congr hcleaned.working] at hframe houtputs
  refine ⟨fun e he => ?_, hpaths, hincreasing, ?_, fun b hb => ?_, ?_, ?_⟩
  · rw [← hkept e he]
    exact hbound.declared e he
  · have hmap : paths = (bound.map Prod.fst).map s.outputPath := by
      rw [hpaths, List.map_map]
      rfl
    rw [hmap]
    refine Settings.nodup_outputPaths w.files hextension (fun contract hcontract => ?_)
      (hincreasing.imp fun hlt => hlt.ne)
    obtain ⟨e, he, rfl⟩ := List.mem_map.mp (hnames'.subset hcontract)
    exact hnames e he
  · exact hbound.written b (hsame ▸ hb)
  · exact (hcleaned.mono (Set.empty_subset _) subset_rfl).trans (hframe.mono subset_rfl houtputs)
  · intro hclean
    rw [hunclean hclean] at hframe
    exact hframe

/-- A run that removes earlier files, from an interface to bind and an empty one. -/
theorem generate_of_ping :
    let s : Settings :=
      { outputDirectory := "out", clean := true
        contracts := [("Empty", "empty.json"), ("Ping", "ping.json")] }
    let files : FileSystem := {
      working := ["work"]
      entries := [
        (["work"], .directory), (["work", "empty.json"], .file (.text "[]")),
        (["work", "ping.json"],
          .file (.text "[\x7b\"type\":\"event\",\"name\":\"Ping\",\"inputs\":[]\x7d]")),
        (["work", "out"], .directory), (["work", "out", "Old.ts"], .file (.text "old")),
        (["work", "out", "notes.md"], .file (.text "notes"))] }
    let run := perform (generate s).run { files }
    run.1.toOption = some ["out/Ping.ts"] ∧
      (∀ b ∈ files.boundContracts s.contracts,
        run.2.files.readText (s.outputPath b.1) = .ok (b.2.bindingsText s.library b.1)) ∧
      run.2.files.contentsAt? ["work", "out", "notes.md"] = some (.text "notes") := by
  intro s files run
  have hresult : run.1.toOption = some ["out/Ping.ts"] := by
    simp only [run, generate, s, bindAll, bindContract_eq]
    decide +kernel
  obtain ⟨paths, w', hrun⟩ : ∃ paths w', run = (.ok paths, w') := by
    obtain ⟨r, w'⟩ := run
    cases r with
    | error e => simp [Except.toOption] at hresult
    | ok paths => exact ⟨paths, w', rfl⟩
  have hentries : files.EntryNames := by decide +kernel
  have hfiles : ∀ e ∈ s.contracts, ∃ l c, files.locate e.2 = .ok l ∧
      files.contentsAt? l = some c ∧ ¬ files.place s.outputDirectory <+: l := by
    intro e he
    rcases List.mem_pair.mp he with rfl | rfl
    · exact ⟨["work", "empty.json"], _, rfl, rfl, by decide +kernel⟩
    · exact ⟨["work", "ping.json"], _, rfl, rfl, by decide +kernel⟩
  obtain ⟨-, -, -, -, hread, hframe, -⟩ :=
    generate_writes_bindings rfl (by decide +kernel) hentries hfiles hrun
  have hnotes : ["work", "out", "notes.md"] ∉ s.outputs files := by
    rintro ⟨name, hextension, hplace⟩
    have hname : name = "notes.md" := by
      have hout : files.place s.outputDirectory = ["work", "out"] := by decide +kernel
      rw [hout] at hplace
      simpa [eq_comm] using hplace
    have hother : PathText.extension? "notes.md" ≠ some s.extension := by decide +kernel
    exact hother (hname ▸ hextension)
  refine ⟨hresult, ?_, ?_⟩
  · rw [hrun]
    exact hread
  · rw [hrun]
    exact hframe.files _ hnotes

end AbiBindings
