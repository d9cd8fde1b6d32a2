import AbiBindings.Proofs.Workspace.Effects

/-! # How the parts of a run end

A part of a run can end in several ways, and each tells what has been read, written and printed:

* `BindingOutcome`: the ends of binding one contract, by how far it gets (`bindContract_outcome`).
* `bindAll_cons_eq_ok`, `bindAll_eq_error`: contracts are bound in turn, and the first one that
  fails ends the run with its error.
* `Wrote`: what the contracts that have been bound leave in the files; a run over some contracts
  that succeeds has written the bindings of some of them (`wrote_of_bindAll`).
* `RunOutcome`: the ends of a whole run (`generate_outcome`).
-/

namespace AbiBindings
set_option autoImplicit false

open FileSystem

/-! ## Binding one contract -/

theorem isEmpty_bindingsText (c : Contract) (library name : String) :
    (c.bindingsText library name).isEmpty = c.isEmpty := by
  rw [Contract.bindingsText]
  split
  · rename_i h
    rw [h]
    rfl
  · rename_i h
    rw [Bool.eq_false_iff.mpr h, SourceFile.text]
    simp

/-- A contract is skipped exactly when there is nothing to bind. -/
theorem bindContract_eq {m : Type → Type} [Monad m] [Access m] (s : Settings)
    (contract path : String) : bindContract (m := m) s contract path = (do
      let text ← orFail (fun cause => .config (.contractUnreadable path cause)) (Access.readText path)
      let c ← ofResult (Contract.ofText text)
      (c.bindingsWarnings s.library contract).forM fun w => takeNote (.warning w)
      if c.isEmpty then
        takeNote (.nothingToBind path contract)
        return none
      else if s.dryRun then
        printLine ("\n--- " ++ s.outputPath contract ++ " ---")
        printLine (c.bindingsText s.library contract)
        return none
      else
        orFail (fun cause => .config (.noOutputDirectory cause)) (makeDirectories s.outputDirectory)
        orFail Error.io
          (Access.writeText (s.outputPath contract) (c.bindingsText s.library contract))
        takeNote (.wrote (s.outputPath contract))
        return some (s.outputPath contract)) := by
  simp only [bindContract, isEmpty_bindingsText]

/-- A file as a dry run prints it. -/
def previewText (path text : String) : String :=
  "\n--- " ++ path ++ " ---\n" ++ text ++ "\n"

theorem append_previewText (printed path text : String) :
    printed ++ previewText path text =
      printed ++ ("\n--- " ++ path ++ " ---" ++ "\n") ++ (text ++ "\n") := by
  have hend : (" ---\n" : String) = " ---" ++ "\n" := rfl
  rw [previewText, hend]
  simp only [String.append_assoc]

/-- The ends of binding one contract. -/
inductive BindingOutcome (s : Settings) (contract path : String) (w : Workspace) :
    Except Error (Option String) → Workspace → Prop
  | unread {fault : IoFault} (hread : w.files.readText path = .error fault) :
      BindingOutcome s contract path w (.error (.config (.contractUnreadable path fault))) w
  | undeclared {text : String} {e : Error} (hread : w.files.readText path = .ok text)
      (hdeclares : Contract.ofText text = .error e) :
      BindingOutcome s contract path w (.error e) w
  | skipped {text : String} {c : Contract} {w' : Workspace}
      (hread : w.files.readText path = .ok text) (hdeclares : Contract.ofText text = .ok c)
      (hempty : c.isEmpty = true) (hfiles : w'.files = w.files)
      (hprinted : w'.printed = w.printed) : BindingOutcome s contract path w (.ok none) w'
  | shown {text : String} {c : Contract} {w' : Workspace}
      (hread : w.files.readText path = .ok text) (hdeclares : Contract.ofText text = .ok c)
      (hempty : c.isEmpty = false) (hdry : s.dryRun = true) (hfiles : w'.files = w.files)
      (hprinted : w'.printed = w.printed ++
        previewText (s.outputPath contract) (c.bindingsText s.library contract)) :
      BindingOutcome s contract path w (.ok none) w'
  | unwritten {text : String} {c : Contract} {e : Error} {w' : Workspace}
      (hread : w.files.readText path = .ok text) (hdeclares : Contract.ofText text = .ok c)
      (hempty : c.isEmpty = false) (hdry : s.dryRun = false)
      (hcause : (∃ fault, e = .config (.noOutputDirectory fault)) ∨ ∃ fault, e = .io fault)
      (hmade : Frame (w.files.placesAbove s.outputDirectory) ∅ w.files w'.files) :
      BindingOutcome s contract path w (.error e) w'
  | written {text : String} {c : Contract} {made : FileSystem} {w' : Workspace}
      (hread : w.files.readText path = .ok text) (hdeclares : Contract.ofText text = .ok c)
      (hempty : c.isEmpty = false) (hdry : s.dryRun = false)
      (hmade : Frame (w.files.placesAbove s.outputDirectory) ∅ w.files made)
      (hwrite : made.writeText (s.outputPath contract) (c.bindingsText s.library contract) =
        .ok w'.files) : BindingOutcome s contract path w (.ok (some (s.outputPath contract))) w'

/-- Writing a file below the output directory fails, when at most directories have been made, or
writes it. -/
theorem perform_write {s : Settings} {output text : String} {w w' : Workspace}
    {r : Except Error (Option String)}
    (h : perform (do
      orFail (m := StateM Workspace) (fun cause => .config (.noOutputDirectory cause))
        (makeDirectories s.outputDirectory)
      orFail Error.io (Access.writeText output text)
      takeNote (.wrote output)
      return some output : ExceptT Error (StateM Workspace) (Option String)).run w = (r, w')) :
    ∃ made, Frame (w.files.placesAbove s.outputDirectory) ∅ w.files made ∧
      ((∃ e, ((∃ fault, e = .config (.noOutputDirectory fault)) ∨ ∃ fault, e = .io fault) ∧
          r = .error e ∧ w'.files = made) ∨
        r = .ok (some output) ∧ made.writeText output text = .ok w'.files) := by
  have hmakes : Leaves w.files (w.files.placesAbove s.outputDirectory) ∅
      (makeDirectories s.outputDirectory) := leaves_makeDirectories _ subset_rfl
  -- directories may have been made whether or not making them has succeeded
  refine ⟨_, hmakes w rfl, ?_⟩
  rw [perform_bind, perform_orFail] at h
  cases hmake : perform (makeDirectories s.outputDirectory) w with
  | mk r₁ made =>
    rw [hmake] at h
    cases r₁ with
    | error fault =>
      cases h
      exact .inl ⟨_, .inl ⟨fault, rfl⟩, rfl, rfl⟩
    | ok u =>
      have hupdate : (Access.writeText output text : StateM Workspace _) =
          Workspace.update (·.writeText output text) := rfl
      simp only [Except.mapError] at h
      rw [perform_bind, perform_orFail, hupdate] at h
      cases hwrite : made.files.writeText output text with
      | error fault =>
        rw [perform_update_of_error _ hwrite] at h
        cases h
        exact .inl ⟨_, .inr ⟨fault, rfl⟩, rfl, rfl⟩
      | ok files =>
        rw [perform_update_of_ok _ hwrite] at h
        cases h
        exact .inr ⟨rfl, rfl⟩

theorem bindContract_outcome {s : Settings} {contract path : String} {w w' : Workspace}
    {r : Except Error (Option String)}
    (h : perform (bindContract s contract path).run w = (r, w')) :
    BindingOutcome s contract path w r w' := by
  rw [bindContract_eq, perform_bind, perform_orFail, perform_readText] at h
  cases hread : w.files.readText path with
  | error fault =>
    rw [hread] at h
    cases h
    exact .unread hread
  | ok text =>
    rw [hread] at h
    simp only [Except.mapError] at h
    rw [perform_bind, perform_ofResult] at h
    cases hdeclares : Contract.ofText text with
    | error e =>
      rw [hdeclares] at h
      cases h
      exact .undeclared hread hdeclares
    | ok c =>
      rw [hdeclares] at h
      dsimp only at h
      rw [perform_bind, perform_takeNotes] at h
      dsimp only at h
      cases hempty : c.isEmpty with
      | true =>
        rw [hempty, if_pos rfl] at h
        cases h
        exact .skipped hread hdeclares hempty rfl rfl
      | false =>
        rw [hempty, if_neg Bool.false_ne_true] at h
        cases hdry : s.dryRun with
        | true =>
          rw [hdry, if_pos rfl] at h
          cases h
          exact .shown hread hdeclares hempty hdry rfl (append_previewText _ _ _).symm
        | false =>
          rw [hdry, if_neg Bool.false_ne_true] at h
          obtain ⟨made, hmade, ⟨e, hcause, rfl, rfl⟩ | ⟨rfl, hwrite⟩⟩ := perform_write h
          · exact .unwritten hread hdeclares hempty hdry hcause hmade
          · exact .written hread hdeclares hempty hdry hmade hwrite

/-! ## Binding in turn -/

section

variable {s : Settings} {entries rest : List (String × String)} {e : String × String}
variable {paths : List String} {w w' : Workspace}

theorem bindAll_nil : perform (bindAll s []).run w = (.ok [], w) :=
  rfl

theorem bindAll_cons_eq_ok :
    perform (bindAll s (e :: rest)).run w = (.ok paths, w') ↔
      ∃ written? others w₁, perform (bindContract s e.1 e.2).run w = (.ok written?, w₁) ∧
        perform (bindAll s rest).run w₁ = (.ok others, w') ∧ paths = written?.toList ++ others := by
  rw [bindAll, perform_bind_eq_ok]
  constructor
  · rintro ⟨written?, w₁, hbind, hrest⟩
    obtain ⟨others, w₂, hothers, hpure⟩ := perform_bind_eq_ok.mp hrest
    obtain ⟨rfl, rfl⟩ := perform_pure_eq_ok.mp hpure
    exact ⟨written?, others, w₁, hbind, hothers, rfl⟩
  · rintro ⟨written?, others, w₁, hbind, hothers, rfl⟩
    exact ⟨written?, w₁, hbind,
      perform_bind_eq_ok.mpr ⟨others, w', hothers, perform_pure_eq_ok.mpr ⟨rfl, rfl⟩⟩⟩

theorem bindAll_cons_eq_error {fault : Error} :
    perform (bindAll s (e :: rest)).run w = (.error fault, w') ↔
      perform (bindContract s e.1 e.2).run w = (.error fault, w') ∨
        ∃ written? w₁, perform (bindContract s e.1 e.2).run w = (.ok written?, w₁) ∧
          perform (bindAll s rest).run w₁ = (.error fault, w') := by
  rw [bindAll, perform_bind]
  cases perform (bindContract s e.1 e.2).run w with
  | mk r w₁ =>
    cases r with
    | error fault' => simp
    | ok written? =>
      simp only [Prod.mk.injEq, reduceCtorEq, false_and, false_or, Except.ok.injEq]
      rw [perform_bind]
      constructor
      · intro h
        refine ⟨written?, w₁, ⟨rfl, rfl⟩, ?_⟩
        split at h
        · rw [perform_pure] at h
          simp at h
        · rename_i hrest
          rw [hrest, h]
      · rintro ⟨written?', w₁', ⟨rfl, rfl⟩, hrest⟩
        rw [hrest]

/-- The first contract that fails ends the run. -/
theorem bindAll_eq_error {fault : Error}
    (h : perform (bindAll s entries).run w = (.error fault, w')) :
    ∃ before e rest paths w₁, entries = before ++ e :: rest ∧
      perform (bindAll s before).run w = (.ok paths, w₁) ∧
      perform (bindContract s e.1 e.2).run w₁ = (.error fault, w') := by
  induction entries generalizing w with
  | nil =>
    rw [bindAll_nil] at h
    simp at h
  | cons e rest ih =>
    rcases bindAll_cons_eq_error.mp h with hfails | ⟨written?, w₁, hfirst, hrest⟩
    · exact ⟨[], e, rest, [], w, rfl, bindAll_nil, hfails⟩
    · obtain ⟨before, e', rest', paths, w₂, rfl, hbefore, hfails⟩ := ih hrest
      exact ⟨e :: before, e', rest', _, w₂, rfl,
        bindAll_cons_eq_ok.mpr ⟨written?, paths, w₁, hfirst, hbefore, rfl⟩, hfails⟩

end

/-! ## Dry runs -/

theorem files_of_bindContract {s : Settings} (hdry : s.dryRun = true) {contract path : String}
    {w w' : Workspace} {r : Except Error (Option String)}
    (h : perform (bindContract s contract path).run w = (r, w')) : w'.files = w.files := by
  cases bindContract_outcome h with
  | unread hread => rfl
  | undeclared hread hdeclares => rfl
  | skipped hread hdeclares hempty hfiles hprinted => exact hfiles
  | shown hread hdeclares hempty hshows hfiles hprinted => exact hfiles
  | unwritten hread hdeclares hempty hwrites hcause hmade => simp [hdry] at hwrites
  | written hread hdeclares hempty hwrites hmade hwrite => simp [hdry] at hwrites

theorem bindAll_dryRun_eq_ok {s : Settings} (hdry : s.dryRun = true)
    {entries : List (String × String)} {w w' : Workspace} {paths : List String}
    (h : perform (bindAll s entries).run w = (.ok paths, w')) :
    paths = [] ∧ w'.files = w.files := by
  induction entries generalizing w paths with
  | nil =>
    cases h
    exact ⟨rfl, rfl⟩
  | cons e rest ih =>
    obtain ⟨written?, others, w₁, hbind, hrest, rfl⟩ := bindAll_cons_eq_ok.mp h
    obtain ⟨rfl, hfiles⟩ := ih hrest
    have hfirst := files_of_bindContract hdry hbind
    refine ⟨?_, hfiles.trans hfirst⟩
    cases bindContract_outcome hbind with
    | skipped hread hdeclares hempty hfiles hprinted => rfl
    | shown hread hdeclares hempty hshows hfiles hprinted => rfl
    | written hread hdeclares hempty hwrites hmade hwrite => simp [hdry] at hwrites

theorem files_of_bindAll {s : Settings} (hdry : s.dryRun = true) {entries : List (String × String)}
    {w w' : Workspace} {r : Except Error (List String)}
    (h : perform (bindAll s entries).run w = (r, w')) : w'.files = w.files := by
  cases r with
  | ok paths => exact (bindAll_dryRun_eq_ok hdry h).2
  | error fault =>
    obtain ⟨_, _, _, _, w₁, -, hbefore, hfails⟩ := bindAll_eq_error h
    exact (files_of_bindContract hdry hfails).trans (bindAll_dryRun_eq_ok hdry hbefore).2

/-! ## What is written -/

/-- What the contracts that have been bound leave in the files: only their outputs differ, only
directories above these are new, and each output is found and holds the bindings of a contract
written there. -/
structure Wrote (s : Settings) (bound : List (String × Contract)) (fs fs' : FileSystem) : Prop where
  frame : Frame (fs.placesAbove s.outputDirectory)
    {l | ∃ b ∈ bound, fs.place (s.outputPath b.1) = l} fs fs'
  same : bound = [] → fs' = fs
  located : ∀ b ∈ bound, fs'.locate (s.outputPath b.1) = .ok (fs.place (s.outputPath b.1))
  holds : ∀ b ∈ bound, ∃ d ∈ bound, fs.place (s.outputPath d.1) = fs.place (s.outputPath b.1) ∧
    fs'.contentsAt? (fs.place (s.outputPath b.1)) = some (.text (d.2.bindingsText s.library d.1))

namespace Wrote

variable {s : Settings} {bound more : List (String × Contract)} {fs fs₁ fs₂ : FileSystem}

theorem nil (s : Settings) (fs : FileSystem) : Wrote s [] fs fs where
  frame := .refl _ _ _
  same _ := rfl
  located _ hb := absurd hb List.not_mem_nil
  holds _ hb := absurd hb List.not_mem_nil

theorem single {contract : String} {c : Contract}
    (hmade : Frame (fs.placesAbove s.outputDirectory) ∅ fs fs₁)
    (hwrite : fs₁.writeText (s.outputPath contract) (c.bindingsText s.library contract) = .ok fs₂) :
    Wrote s [(contract, c)] fs fs₂ where
  frame := by
    refine (hmade.mono subset_rfl (Set.empty_subset _)).trans ?_
    refine (frame_writeText hwrite).mono (Set.empty_subset _) ?_
    rw [Set.singleton_subset_iff, hmade.place]
    exact ⟨_, List.mem_singleton_self _, rfl⟩
  same h := absurd h (List.cons_ne_nil _ _)
  located b hb := by
    obtain rfl := List.mem_singleton.mp hb
    rw [← hmade.place]
    exact locate_writeText hwrite
  holds b hb := by
    obtain rfl := List.mem_singleton.mp hb
    refine ⟨_, List.mem_singleton_self _, rfl, ?_⟩
    rw [← hmade.place]
    exact contentsAt?_writeText hwrite

theorem append (hfirst : Wrote s bound fs fs₁) (hsecond : Wrote s more fs₁ fs₂) :
    Wrote s (bound ++ more) fs fs₂ := by
  have hframe := hsecond.frame
  have hlocated := hsecond.located
  have hholds := hsecond.holds
  simp only [Settings.placesAbove_congr hfirst.frame.working, hfirst.frame.place]
    at hframe hlocated hholds
  have hall : ∀ b ∈ bound ++ more, ∃ d ∈ bound ++ more,
      fs.place (s.outputPath d.1) = fs.place (s.outputPath b.1) ∧
      fs₂.contentsAt? (fs.place (s.outputPath b.1)) =
        some (.text (d.2.bindingsText s.library d.1)) := by
    refine List.forall_mem_append.mpr ⟨fun b hb => ?_, fun b hb => ?_⟩
    · -- an output that is written again holds what was written last
      by_cases hagain : ∃ d ∈ more, fs.place (s.outputPath d.1) = fs.place (s.outputPath b.1)
      · obtain ⟨d, hd, hplace⟩ := hagain
        obtain ⟨d', hd', hplace', hcontents⟩ := hholds d hd
        exact ⟨d', List.mem_append_right _ hd', hplace'.trans hplace, hplace ▸ hcontents⟩
      · obtain ⟨d, hd, hplace, hcontents⟩ := hfirst.holds b hb
        exact ⟨d, List.mem_append_left _ hd, hplace, (hframe.files _ hagain).trans hcontents⟩
    · obtain ⟨d, hd, hplace, hcontents⟩ := hholds b hb
      exact ⟨d, List.mem_append_right _ hd, hplace, hcontents⟩
  refine ⟨?_, ?_, ?_, hall⟩
  · refine (hfirst.frame.mono subset_rfl ?_).trans (hframe.mono subset_rfl ?_)
    · rintro l ⟨b, hb, rfl⟩
      exact ⟨b, List.mem_append_left _ hb, rfl⟩
    · rintro l ⟨b, hb, rfl⟩
      exact ⟨b, List.mem_append_right _ hb, rfl⟩
  · intro hnil
    obtain ⟨hbound, hmore⟩ := List.append_eq_nil_iff.mp hnil
    rw [hsecond.same hmore, hfirst.same hbound]
  · refine List.forall_mem_append.mpr ⟨fun b hb => ?_, hlocated⟩
    obtain ⟨d, -, -, hcontents⟩ := hall b (List.mem_append_left _ hb)
    exact locate_mono hframe.working hframe.kept (isSome_get?_of_contentsAt? hcontents)
      (hfirst.located b hb)

end Wrote

/-- A run over some contracts that succeeds has written the bindings of some of them. -/
theorem wrote_of_bindAll {s : Settings} {entries : List (String × String)} {w w' : Workspace}
    {paths : List String} (h : perform (bindAll s entries).run w = (.ok paths, w')) :
    ∃ bound : List (String × Contract), (bound.map Prod.fst).Sublist (entries.map Prod.fst) ∧
      (∀ b ∈ bound, b.2.isEmpty = false) ∧ paths = bound.map (fun b => s.outputPath b.1) ∧
      Wrote s bound w.files w'.files := by
  induction entries generalizing w paths with
  | nil =>
    obtain ⟨rfl, rfl⟩ := perform_pure_eq_ok.mp h
    exact ⟨[], List.Sublist.refl _, by simp, rfl, .nil s _⟩
  | cons e rest ih =>
    obtain ⟨written?, others, w₁, hbind, hrest, rfl⟩ := bindAll_cons_eq_ok.mp h
    obtain ⟨bound, hnames, hdeclare, rfl, hwrote⟩ := ih hrest
    cases bindContract_outcome hbind with
    | skipped hread hdeclares hempty hfiles hprinted =>
      exact ⟨bound, hnames.cons _, hdeclare, rfl, hfiles ▸ hwrote⟩
    | shown hread hdeclares hempty hdry hfiles hprinted =>
      exact ⟨bound, hnames.cons _, hdeclare, rfl, hfiles ▸ hwrote⟩
    | @written text c made _ hread hdeclares hempty hdry hmade hwrite =>
      refine ⟨(e.1, c) :: bound, hnames.cons_cons _, List.forall_mem_cons.mpr ⟨hempty, hdeclare⟩,
        rfl, ?_⟩
      exact Wrote.append (.single hmade hwrite) hwrote

/-! ## Whole runs -/

/-- Files of earlier runs have been removed, where this is asked for. -/
def Cleared (s : Settings) (w w₁ : Workspace) : Prop :=
  if s.clean && !s.dryRun then perform (removeEarlier s).run w = (.ok (), w₁) else w₁ = w

theorem Cleared.eq {s : Settings} {w w₁ : Workspace} (h : Cleared s w w₁)
    (hkeeps : s.clean = false ∨ s.dryRun = true) : w₁ = w := by
  have hcondition : (s.clean && !s.dryRun) = false := by
    rcases hkeeps with hclean | hdry
    · rw [hclean, Bool.false_and]
    · rw [hdry, Bool.not_true, Bool.and_false]
  rwa [Cleared, hcondition, if_neg Bool.false_ne_true] at h

theorem Cleared.removed {s : Settings} {w w₁ : Workspace} (h : Cleared s w w₁)
    (hclean : s.clean = true) (hwrites : s.dryRun = false) :
    perform (removeEarlier s).run w = (.ok (), w₁) := by
  have hcondition : (s.clean && !s.dryRun) = true := by rw [hclean, hwrites]; rfl
  rwa [Cleared, if_pos hcondition] at h

theorem Cleared.frame {s : Settings} {w w₁ : Workspace} (h : Cleared s w w₁)
    (hentries : w.files.EntryNames) : Frame ∅ (s.outputs w.files) w.files w₁.files := by
  by_cases hkeeps : s.clean = false ∨ s.dryRun = true
  · rw [h.eq hkeeps]
    exact .refl _ _ _
  · rw [not_or, Bool.not_eq_false, Bool.not_eq_true] at hkeeps
    have hframe := frame_removeEarlier (s := s) hentries
    rwa [h.removed hkeeps.1 hkeeps.2] at hframe

/-- The ends of a whole run. -/
inductive RunOutcome (s : Settings) (w : Workspace) :
    Except Error (List String) → Workspace → Prop
  | refused {fault : ConfigFault} (hinvalid : s.validate = .error fault) :
      RunOutcome s w (.error (.config fault)) w
  | uncleared {e : Error} {w' : Workspace} (hvalid : s.validate = .ok ())
      (hclean : s.clean = true) (hwrites : s.dryRun = false)
      (hremoval : perform (removeEarlier s).run w = (.error e, w')) : RunOutcome s w (.error e) w'
  | bound {r : Except Error (List String)} {w₁ w' : Workspace} (hvalid : s.validate = .ok ())
      (hcleared : Cleared s w w₁) (hrun : perform (bindAll s s.contracts).run w₁ = (r, w')) :
      RunOutcome s w r w'

theorem generate_outcome {s : Settings} {w w' : Workspace} {r : Except Error (List String)}
    (h : perform (generate s).run w = (r, w')) : RunOutcome s w r w' := by
  rw [generate, perform_bind, perform_ofResult] at h
  cases hvalid : s.validate with
  | error fault =>
    rw [hvalid] at h
    cases h
    exact .refused hvalid
  | ok u =>
    rw [hvalid] at h
    cases hclears : s.clean && !s.dryRun with
    | false =>
      rw [hclears] at h
      exact .bound hvalid (by rw [Cleared, hclears]; rfl) h
    | true =>
      have hclean : s.clean = true ∧ s.dryRun = false := by simpa using hclears
      rw [hclears] at h
      simp only [Except.mapError, if_true] at h
      rw [perform_bind] at h
      cases hremoval : perform (removeEarlier s).run w with
      | mk r₁ w₁ =>
        rw [hremoval] at h
        cases r₁ with
        | error e =>
          cases h
          exact .uncleared hvalid hclean.1 hclean.2 hremoval
        | ok u => exact .bound hvalid (by rw [Cleared, hclears]; exact hremoval) h

/-- Where no earlier files are removed, a run with valid settings is the binding of its contracts. -/
theorem generate_eq_bindAll {s : Settings} (hvalid : s.validate = .ok ())
    (hkeeps : s.clean = false ∨ s.dryRun = true) (w : Workspace) :
    perform (generate s).run w = perform (bindAll s s.contracts).run w := by
  obtain ⟨r, w', hrun⟩ := exists_perform (generate s).run w
  rw [hrun]
  cases generate_outcome hrun with
  | refused hinvalid => simp [hvalid] at hinvalid
  | uncleared _ hclean hwrites _ => simp [hclean, hwrites] at hkeeps
  | bound _ hcleared hbindAll => rw [← hbindAll, hcleared.eq hkeeps]

theorem files_of_generate {s : Settings} (hdry : s.dryRun = true) {w w' : Workspace}
    {r : Except Error (List String)} (h : perform (generate s).run w = (r, w')) :
    w'.files = w.files := by
  cases generate_outcome h with
  | refused hinvalid => rfl
  | uncleared hvalid hclean hwrites hremoval => simp [hdry] at hwrites
  | bound hvalid hcleared hrun =>
    have hfiles := files_of_bindAll hdry hrun
    rwa [hcleared.eq (.inr hdry)] at hfiles

end AbiBindings
