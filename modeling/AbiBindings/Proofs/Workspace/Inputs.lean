import AbiBindings.Proofs.Workspace.Outputs

/-! # What becomes of the interfaces

A run reads interfaces and writes bindings, and nothing keeps the two apart: an interface may stand
where bindings are written, or among the files that are removed first.

Whatever a run over some contracts gives, files keep what they hold, but for outputs, which may come
to hold bindings (`Spares`). With the removal of earlier files this tells of each interface how it can
be lost (`generate_spares_inputs`), and both ways of losing one occur (`inputs_among_outputs_are_lost`).
-/

namespace AbiBindings
set_option autoImplicit false

open FileSystem

theorem getLast?_bindingsText {c : Contract} (library contract : String) (h : c.isEmpty = false) :
    (c.bindingsText library contract).toList.getLast? = some '\n' := by
  rw [Contract.bindingsText, h, if_neg Bool.false_ne_true, SourceFile.text, String.toList_append,
    List.getLast?_append]
  rfl

/-- A location holds the bindings of a contract that has something to bind. -/
def FileSystem.HoldsBindings (fs : FileSystem) (s : Settings) (contract : String) (l : Location) :
    Prop :=
  ∃ c : Contract, c.isEmpty = false ∧
    fs.contentsAt? l = some (.text (c.bindingsText s.library contract))

/-- Files keep what they hold, but for the outputs of some contracts, which may come to hold their
bindings. -/
structure Spares (s : Settings) (contracts : List String) (fs fs' : FileSystem) : Prop where
  working : fs'.working = fs.working
  kept : ∀ l, fs.isDirectoryAt l = true → fs'.isDirectoryAt l = true
  files : ∀ l c, fs.contentsAt? l = some c → fs'.contentsAt? l = some c ∨
    ∃ contract ∈ contracts, fs.place (s.outputPath contract) = l ∧ fs'.HoldsBindings s contract l

namespace Spares

variable {s : Settings} {contracts : List String} {fs fs₁ fs₂ : FileSystem}

theorem of_frame {made : Set Location} (h : Frame made ∅ fs fs₁) : Spares s contracts fs fs₁ where
  working := h.working
  kept := h.kept
  files l _ hc := .inl ((h.files l (Set.notMem_empty l)).trans hc)

theorem of_wrote {bound : List (String × Contract)} (h : Wrote s bound fs fs₁)
    (hcontracts : bound.map Prod.fst ⊆ contracts) (hdeclare : ∀ b ∈ bound, b.2.isEmpty = false) :
    Spares s contracts fs fs₁ where
  working := h.frame.working
  kept := h.frame.kept
  files l c hc := by
    by_cases hwritten : ∃ b ∈ bound, fs.place (s.outputPath b.1) = l
    · obtain ⟨b, hb, rfl⟩ := hwritten
      obtain ⟨d, hd, hplace, hholds⟩ := h.holds b hb
      exact .inr ⟨d.1, hcontracts (List.mem_map_of_mem hd), hplace, d.2, hdeclare d hd, hholds⟩
    · exact .inl ((h.frame.files l hwritten).trans hc)

theorem trans (h : Spares s contracts fs fs₁) (h' : Spares s contracts fs₁ fs₂) :
    Spares s contracts fs fs₂ where
  working := h'.working.trans h.working
  kept l hl := h'.kept l (h.kept l hl)
  files l c hc := by
    have hplace : ∀ path, fs₁.place path = fs.place path := place_congr h.working
    rcases h.files l c hc with hkept | ⟨contract, hcontract, hl, b, hb, hholds⟩
    · simpa only [hplace] using h'.files l c hkept
    · -- bindings that were written may be written over by others
      rcases h'.files l _ hholds with hkept | hagain
      · exact .inr ⟨contract, hcontract, hl, b, hb, hkept⟩
      · exact .inr (by simpa only [hplace] using hagain)

end Spares

/-- Whatever binding contracts in turn gives, it spares all files but their outputs. -/
theorem spares_of_bindAll {s : Settings} {entries : List (String × String)} {w w' : Workspace}
    {r : Except Error (List String)} (h : perform (bindAll s entries).run w = (r, w')) :
    Spares s (entries.map Prod.fst) w.files w'.files := by
  cases r with
  | ok paths =>
    obtain ⟨bound, hnames, hdeclare, -, hwrote⟩ := wrote_of_bindAll h
    exact .of_wrote hwrote hnames.subset hdeclare
  | error fault =>
    obtain ⟨before, e, rest, paths, w₁, rfl, hbefore, hfails⟩ := bindAll_eq_error h
    obtain ⟨bound, hnames, hdeclare, -, hwrote⟩ := wrote_of_bindAll hbefore
    have hsubset : bound.map Prod.fst ⊆ (before ++ e :: rest).map Prod.fst := by
      rw [List.map_append]
      exact fun _ hmem => List.mem_append_left _ (hnames.subset hmem)
    refine (Spares.of_wrote hwrote hsubset hdeclare).trans ?_
    -- the contract that fails has written nothing
    cases bindContract_outcome hfails with
    | unread hread => exact .of_frame (.refl ∅ ∅ _)
    | undeclared hread hdeclares => exact .of_frame (.refl ∅ ∅ _)
    | unwritten hread hdeclares hempty hdry hcause hmade => exact .of_frame hmade

/-- Whatever a run gives, it may have removed outputs of earlier runs, and spares all files but its
own outputs. -/
theorem spares_of_generate {s : Settings} {w w' : Workspace} {r : Except Error (List String)}
    (hentries : w.files.EntryNames) (h : perform (generate s).run w = (r, w')) :
    w'.files = w.files ∨ s.validate = .ok () ∧ ∃ fs, Frame ∅ (s.outputs w.files) w.files fs ∧
      (s.clean = false → fs = w.files) ∧ Spares s (s.contracts.map Prod.fst) fs w'.files := by
  cases generate_outcome h with
  | refused hinvalid => exact .inl rfl
  | uncleared hvalid hclean hdry hremoval =>
    have hframe := frame_removeEarlier (s := s) hentries
    rw [hremoval] at hframe
    exact .inr ⟨hvalid, w'.files, hframe, by simp [hclean], .of_frame (.refl ∅ ∅ _)⟩
  | bound hvalid hcleared hrun =>
    exact .inr ⟨hvalid, _, hcleared.frame hentries,
      fun hclean => congrArg Workspace.files (hcleared.eq (.inl hclean)),
      spares_of_bindAll hrun⟩

/-- An interface that is there before a run is there afterwards and holds the same, whatever the run
gives, unless the run writes and either earlier files are removed and the interface stands in the
output directory under a name with the extension, or earlier files are kept and the interface is the
output of a contract, whose bindings it then holds. -/
theorem generate_spares_inputs {s : Settings} {w : Workspace} (hentries : w.files.EntryNames) :
    let after := (perform (generate s).run w).2.files
    ∀ e ∈ s.contracts, ∀ l c, w.files.locate e.2 = .ok l → w.files.contentsAt? l = some c →
      (after.locate e.2 = .ok l ∧ after.contentsAt? l = some c) ∨
      (s.dryRun = false ∧ s.clean = true ∧ l ∈ s.outputs w.files) ∨
      (s.dryRun = false ∧ s.clean = false ∧
        ∃ d ∈ s.contracts, w.files.place (s.outputPath d.1) = l ∧ after.HoldsBindings s d.1 l) := by
  intro after e he l c hlocate hc
  obtain ⟨r, w', hrun⟩ := exists_perform (generate s).run w
  have hafter : after = w'.files := congrArg (fun run => run.2.files) hrun
  rw [hafter]
  have hunchanged : w'.files = w.files →
      w'.files.locate e.2 = .ok l ∧ w'.files.contentsAt? l = some c := by
    intro hfiles
    rw [hfiles]
    exact ⟨hlocate, hc⟩
  cases hwrites : s.dryRun with
  | true => exact .inl (hunchanged (files_of_generate hwrites hrun))
  | false =>
    rcases spares_of_generate hentries hrun with hfiles | ⟨hvalid, fs, hframe, hkeep, hspares⟩
    · exact .inl (hunchanged hfiles)
    -- what keeps its contents is found where it was
    have hfound : w'.files.contentsAt? l = some c →
        w'.files.locate e.2 = .ok l ∧ w'.files.contentsAt? l = some c := by
      intro hc'
      exact ⟨locate_mono (hspares.working.trans hframe.working)
        (fun k hk => hspares.kept k (hframe.kept k hk)) (isSome_get?_of_contentsAt? hc') hlocate, hc'⟩
    cases hclean : s.clean with
    | true =>
      by_cases hl : l ∈ s.outputs w.files
      · exact .inr (.inl ⟨rfl, rfl, hl⟩)
      · rcases hspares.files l c ((hframe.files l hl).trans hc) with hkept | ⟨contract, hmem, rfl, -⟩
        · exact .inl (hfound hkept)
        · -- an output stands in the output directory and has the extension
          obtain ⟨hnames, hextension⟩ := Settings.validate_eq_ok hvalid
          obtain ⟨d, hd, rfl⟩ := List.mem_map.mp hmem
          rw [hframe.place] at hl
          exact absurd (Settings.place_outputPath_mem_outputs w.files (hnames d hd) hextension) hl
    | false =>
      obtain rfl := hkeep hclean
      rcases hspares.files l c hc with hkept | ⟨contract, hmem, hplace, hholds⟩
      · exact .inl (hfound hkept)
      · obtain ⟨d, hd, rfl⟩ := List.mem_map.mp hmem
        exact .inr (.inr ⟨rfl, rfl, d, hd, hplace, hholds⟩)

/-- An interface in the output directory is removed with earlier files, and where these are kept, it
is written over by the bindings of its own contract. -/
theorem inputs_among_outputs_are_lost :
    let text := "[\x7b\"type\":\"event\",\"name\":\"Ping\",\"inputs\":[]\x7d]"
    let files : FileSystem := {
      working := ["work"]
      entries := [
        (["work"], .directory), (["work", "out"], .directory),
        (["work", "out", "Ping.json"], .file (.text text))] }
    let s : Settings :=
      { outputDirectory := "out", extension := "json", contracts := [("Ping", "out/Ping.json")] }
    let l := ["work", "out", "Ping.json"]
    s.validate = .ok () ∧ files.locate "out/Ping.json" = .ok l ∧
      files.contentsAt? l = some (.text text) ∧
      (perform (generate { s with clean := true }).run { files }).2.files.contentsAt? l = none ∧
      (perform (generate s).run { files }).2.files.contentsAt? l ≠ some (.text text) := by
  intro text files s l
  refine ⟨by decide +kernel, by decide +kernel, rfl, ?_, ?_⟩
  · have hnone : ((perform (generate { s with clean := true }).run { files }).2.files.contentsAt?
        l).isNone = true := by
      simp only [generate, s, bindAll, bindContract_eq]
      decide +kernel
    simpa using hnone
  · have hresult : (perform (generate s).run { files }).1.toOption = some ["out/Ping.json"] := by
      simp only [generate, s, bindAll, bindContract_eq]
      decide +kernel
    obtain ⟨r, w', hrun⟩ := exists_perform (generate s).run { files }
    rw [hrun] at hresult ⊢
    obtain rfl := toOption_eq_some_iff.mp hresult
    cases generate_outcome hrun with
    | bound hvalid hcleared hbindAll =>
      obtain ⟨bound, -, hdeclare, hpaths, hwrote⟩ := wrote_of_bindAll hbindAll
      obtain rfl := hcleared.eq (.inl rfl)
      obtain ⟨b, hb, hpath⟩ := List.mem_map.mp (hpaths ▸ List.mem_singleton_self _)
      obtain ⟨d, hd, -, hholds⟩ := hwrote.holds b hb
      have hplace : files.place "out/Ping.json" = l := by decide +kernel
      rw [hpath, hplace] at hholds
      intro hkept
      -- bindings end their last line
      have hlast := getLast?_bindingsText s.library d.1 (hdeclare d hd)
      rw [hholds] at hkept
      have htext : d.2.bindingsText s.library d.1 = text := by simpa using hkept
      rw [htext] at hlast
      exact absurd hlast (by decide +kernel)

/-- An interface outside the output directory survives the removal of earlier files. -/
theorem inputs_of_ping_survive :
    let files : FileSystem := {
      working := ["work"]
      entries := [
        (["work"], .directory),
        (["work", "ping.json"],
          .file (.text "[\x7b\"type\":\"event\",\"name\":\"Ping\",\"inputs\":[]\x7d]")),
        (["work", "out"], .directory), (["work", "out", "old.json"], .file (.text "old"))] }
    let s : Settings :=
      { outputDirectory := "out", extension := "json", clean := true
        contracts := [("Ping", "ping.json")] }
    let after := (perform (generate s).run { files }).2.files
    after.contentsAt? ["work", "out", "old.json"] = none ∧
      after.contentsAt? ["work", "ping.json"] =
        some (.text "[\x7b\"type\":\"event\",\"name\":\"Ping\",\"inputs\":[]\x7d]") := by
  intro files s after
  have hentries : files.EntryNames := by decide +kernel
  have houtside : ["work", "ping.json"] ∉ s.outputs files := by
    rintro ⟨name, -, hplace⟩
    have hout : files.place s.outputDirectory = ["work", "out"] := by decide +kernel
    rw [hout] at hplace
    simp at hplace
  refine ⟨?_, ?_⟩
  · have hnone : (after.contentsAt? ["work", "out", "old.json"]).isNone = true := by
      simp only [after, generate, s, bindAll, bindContract_eq]
      decide +kernel
    simpa using hnone
  · rcases generate_spares_inputs (s := s) (w := { files }) hentries ("Ping", "ping.json")
      (List.mem_singleton_self _) ["work", "ping.json"] _ rfl rfl with hkept | ⟨-, -, hl⟩ | ⟨-, hclean, -⟩
    · exact hkept.2
    · exact absurd hl houtside
    · exact absurd hclean (by decide)

end AbiBindings
