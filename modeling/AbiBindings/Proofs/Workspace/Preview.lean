import AbiBindings.Proofs.Workspace.Outputs

/-! # What a dry run shows

A dry run leaves the files alone and prints, one contract after the other, what there is to bind
(`bindAll_previews`). The run that writes reads the files that it changes, the dry run files that
stay; where no interface stands in the output directory, both read the same interfaces, and the dry
run shows each file that the other one writes (`dry_run_previews_run`). -/

namespace AbiBindings
set_option autoImplicit false

open FileSystem

/-- The bindings of a contract as a dry run prints them. -/
def Settings.preview (s : Settings) (b : String × Contract) : String :=
  previewText (s.outputPath b.1) (b.2.bindingsText s.library b.1)

/-- A dry run over contracts that are all declared prints the bindings of those that have something
to bind. -/
theorem bindAll_previews {s : Settings} (hdry : s.dryRun = true) {entries : List (String × String)}
    {w : Workspace} (hdeclared : ∀ e ∈ entries, (w.files.contractAt? e.2).isSome = true) :
    ∃ w', perform (bindAll s entries).run w = (.ok [], w') ∧
      w'.printed = w.printed ++ String.join ((w.files.boundContracts entries).map s.preview) := by
  induction entries generalizing w with
  | nil => exact ⟨w, bindAll_nil, by simp [boundContracts]⟩
  | cons e rest ih =>
    obtain ⟨hfirst, hothers⟩ := List.forall_mem_cons.mp hdeclared
    obtain ⟨r, w₁, hbind⟩ := exists_perform (bindContract s e.1 e.2).run w
    have hfiles := files_of_bindContract hdry hbind
    have hsplit := boundContracts_append w.files [e] rest
    -- what the first contract prints, and that nothing is written for it
    have hprints : r = .ok none ∧ w₁.printed = w.printed ++
        String.join ((w.files.boundContracts [e]).map s.preview) := by
      cases bindContract_outcome hbind with
      | unread hread => simp [contractAt?, hread] at hfirst
      | undeclared hread hdeclares =>
        simp [contractAt?, hread, hdeclares, Except.toOption] at hfirst
      | skipped hread hdeclares hempty _ hprinted =>
        rw [boundContracts_singleton (contractAt?_of_ok hread hdeclares), hempty, if_pos rfl]
        exact ⟨rfl, by simpa using hprinted⟩
      | shown hread hdeclares hempty _ _ hprinted =>
        rw [boundContracts_singleton (contractAt?_of_ok hread hdeclares), hempty,
          if_neg Bool.false_ne_true]
        exact ⟨rfl, by simpa [Settings.preview] using hprinted⟩
      | unwritten _ _ _ hwrites => simp [hdry] at hwrites
      | written _ _ _ hwrites => simp [hdry] at hwrites
    obtain ⟨rfl, hprinted⟩ := hprints
    obtain ⟨w', hrest, hprinted'⟩ := ih (w := w₁) (by simpa only [hfiles] using hothers)
    refine ⟨w', bindAll_cons_eq_ok.mpr ⟨none, [], w₁, hbind, hrest, rfl⟩, ?_⟩
    rw [hprinted', hprinted, hfiles, String.append_assoc, ← String.join_append, ← List.map_append,
      ← hsplit]
    rfl

/-- A dry run leaves the files as they are, whatever it gives, and gives no paths. When the run that
writes succeeds on the same files and each interface is a file outside the output directory, the dry
run succeeds and prints, in the order of the paths written and nothing else, each path and the text
that the file at this path then holds. -/
theorem dry_run_previews_run (s : Settings) (w : Workspace) :
    let dry := perform (generate { s with dryRun := true }).run w
    dry.2.files = w.files ∧ (∀ paths, dry.1 = .ok paths → paths = []) ∧
      (Settings.Ordered s.contracts → w.files.EntryNames →
        (∀ e ∈ s.contracts, ∃ l c, w.files.locate e.2 = .ok l ∧
          w.files.contentsAt? l = some c ∧ ¬ w.files.place s.outputDirectory <+: l) →
        ∀ paths w', perform (generate { s with dryRun := false }).run w = (.ok paths, w') →
          dry.1 = .ok [] ∧ ∃ texts,
            List.Forall₂ (fun path text => w'.files.readText path = .ok text) paths texts ∧
              dry.2.printed = w.printed ++ String.join (List.zipWith previewText paths texts)) := by
  intro dry
  obtain ⟨r, w₁, hdry⟩ := exists_perform (generate { s with dryRun := true }).run w
  have hrun : dry = (r, w₁) := hdry
  rw [hrun]
  refine ⟨files_of_generate rfl hdry, fun paths hpaths => ?_, ?_⟩
  · dsimp only at hpaths
    subst hpaths
    cases generate_outcome hdry with
    | bound hvalid hcleared hbindAll => exact (bindAll_dryRun_eq_ok rfl hbindAll).1
  · intro hordered hentries hfiles paths w' hwriting
    obtain ⟨hvalid, w₂, -, -, hkept, hbound⟩ :=
      bound_of_generate (s := { s with dryRun := false }) rfl hordered hentries hfiles hwriting
    -- both runs read what the files declare before
    have hsame : w₂.files.boundContracts s.contracts = w.files.boundContracts s.contracts :=
      boundContracts_congr hkept
    have hdeclared : ∀ e ∈ s.contracts, (w.files.contractAt? e.2).isSome = true := by
      intro e he
      rw [← hkept e he]
      exact hbound.declared e he
    obtain ⟨w₃, hpreviews, hprinted⟩ :=
      bindAll_previews (s := { s with dryRun := true }) rfl hdeclared
    have hvalid' : ({ s with dryRun := true } : Settings).validate = .ok () := hvalid
    rw [generate_eq_bindAll hvalid' (.inr rfl), hpreviews] at hdry
    cases hdry
    refine ⟨rfl, (w.files.boundContracts s.contracts).map fun b => b.2.bindingsText s.library b.1,
      ?_, ?_⟩
    · rw [hbound.paths_eq, hsame, List.forall₂_map_left_iff, List.forall₂_map_right_iff,
        List.forall₂_same]
      intro b hb
      exact hbound.written b (hsame ▸ hb)
    · rw [hprinted, hbound.paths_eq, hsame, List.zipWith_map, List.zipWith_self]
      rfl

/-- The preview of a run that removes earlier files, from an interface to bind and an empty one. -/
theorem dry_run_of_ping :
    let s : Settings :=
      { outputDirectory := "out", clean := true
        contracts := [("Empty", "empty.json"), ("Ping", "ping.json")] }
    let files : FileSystem := {
      working := ["work"]
      entries := [
        (["work"], .directory), (["work", "empty.json"], .file (.text "[]")),
        (["work", "ping.json"],
          .file (.text "[\x7b\"type\":\"event\",\"name\":\"Ping\",\"inputs\":[]\x7d]")),
        (["work", "out"], .directory), (["work", "out", "Old.ts"], .file (.text "old"))] }
    let real := perform (generate s).run { files }
    let dry := perform (generate { s with dryRun := true }).run { files }
    real.1.toOption = some ["out/Ping.ts"] ∧ dry.2.files = files ∧
      ∃ text, real.2.files.readText "out/Ping.ts" = .ok text ∧
        dry.2.printed = "\n--- out/Ping.ts ---\n" ++ text ++ "\n" := by
  intro s files real dry
  have hreal : perform (generate s).run { files } = real := rfl
  have hdry : perform (generate { s with dryRun := true }).run { files } = dry := rfl
  clear_value real dry
  have hresult : real.1.toOption = some ["out/Ping.ts"] := by
    simp only [← hreal, generate, s, bindAll, bindContract_eq]
    decide +kernel
  have hfiles : ∀ e ∈ s.contracts, ∃ l c, files.locate e.2 = .ok l ∧
      files.contentsAt? l = some c ∧ ¬ files.place s.outputDirectory <+: l := by
    intro e he
    rcases List.mem_pair.mp he with rfl | rfl
    · exact ⟨["work", "empty.json"], _, rfl, rfl, by decide +kernel⟩
    · exact ⟨["work", "ping.json"], _, rfl, rfl, by decide +kernel⟩
  obtain ⟨r, w'⟩ := real
  obtain rfl := toOption_eq_some_iff.mp hresult
  have hshows := dry_run_previews_run s { files }
  rw [hdry] at hshows
  obtain ⟨hkept, -, hpreview⟩ := hshows
  obtain ⟨-, texts, htexts, hprinted⟩ :=
    hpreview (by decide +kernel) (by decide +kernel) hfiles _ _ hreal
  obtain ⟨text, rest, htext, hrest, rfl⟩ := List.forall₂_cons_left_iff.mp htexts
  obtain rfl := List.forall₂_nil_left_iff.mp hrest
  refine ⟨hresult, hkept, text, htext, ?_⟩
  have hlead : "\n--- " ++ "out/Ping.ts" ++ " ---\n" = "\n--- out/Ping.ts ---\n" := by decide
  have hjoin : String.join (List.zipWith previewText ["out/Ping.ts"] [text]) =
      "\n--- out/Ping.ts ---\n" ++ text ++ "\n" := by
    simp only [List.zipWith_cons_cons, List.zipWith_nil_left, String.join_cons, String.join_nil,
      String.append_empty, previewText, hlead]
  rw [hprinted, hjoin]
  exact String.empty_append

end AbiBindings
