import AbiBindings.Command.Codegen
import AbiBindings.Proofs.Workspace.Outcomes
import AbiBindings.Proofs.Workspace.Settings

/-! # How commands end

A command reads its settings, whose contracts are in order (`ordered_settings`), and checks them and
their interfaces before it does anything. So it is refused and has changed nothing, or it prints and
ends as the run does (`CommandOutcome`, `command_outcome`). -/

namespace AbiBindings
set_option autoImplicit false

open FileSystem

/-! ## Reading and printing -/

/-- Whatever a computation gives, it leaves its surroundings as they are. -/
def Reads {α : Type} (x : ExceptT Error (StateM Workspace) α) : Prop :=
  ∀ w, (perform x.run w).2 = w

namespace Reads

variable {α β : Type}

theorem ofResult (r : Except Error α) : Reads (ofResult r) :=
  fun _ => rfl

theorem orFail {wrap : IoFault → Error} {operation : StateM Workspace (Except IoFault α)}
    (h : ∀ w, (perform operation w).2 = w) : Reads (orFail wrap operation) :=
  h

theorem bind {x : ExceptT Error (StateM Workspace) α}
    {f : α → ExceptT Error (StateM Workspace) β} (hx : Reads x) (hf : ∀ a, Reads (f a)) :
    Reads (x >>= f) := by
  intro w
  have hfirst := hx w
  rw [perform_bind]
  cases hrun : perform x.run w with
  | mk r w₁ =>
    rw [hrun] at hfirst
    obtain rfl : w₁ = w := hfirst
    cases r with
    | error e => rfl
    | ok a => exact hf a w₁

end Reads

theorem reads_settings (a : Arguments) : Reads a.settings := by
  rw [Arguments.settings]
  split
  · refine .bind ?_ fun s => .ofResult _
    rw [readSettings]
    refine .bind (.orFail fun _ => rfl) fun text => .bind (.ofResult _) fun s => ?_
    split
    · exact .ofResult (.ok _)
    · exact .ofResult (.ok _)
  · exact .bind (.ofResult (.ok _)) fun s => .ofResult _

/-- A computation succeeds and does nothing but print. -/
def Prints (x : ExceptT Error (StateM Workspace) Unit) : Prop :=
  ∀ w, ∃ printed, perform x.run w = (.ok (), { w with printed })

theorem prints_printLine (line : String) : Prints (printLine line) :=
  fun _ => ⟨_, rfl⟩

theorem prints_printLines (lines : List String) : Prints (lines.forM printLine) := by
  induction lines with
  | nil => exact fun w => ⟨w.printed, rfl⟩
  | cons line lines ih => exact fun w => ih { w with printed := w.printed ++ (line ++ "\n") }

/-- A computation gives what a run gives after something has been printed, and leaves the files that
the run leaves. -/
def Carries (s : Settings) (x : ExceptT Error (StateM Workspace) (List String)) : Prop :=
  ∀ w, ∃ printed r w₁ w', perform (generate s).run { w with printed } = (r, w₁) ∧
    perform x.run w = (r, w') ∧ w'.files = w₁.files

namespace Carries

variable {s : Settings}

theorem generate {f : List String → ExceptT Error (StateM Workspace) (List String)}
    (hf : ∀ written w, ∃ printed, perform (f written).run w = (.ok written, { w with printed })) :
    Carries s (generate s >>= f) := by
  intro w
  obtain ⟨r, w₁, hrun⟩ := exists_perform (AbiBindings.generate s).run w
  cases r with
  | error e => exact ⟨w.printed, _, w₁, w₁, hrun, by rw [perform_bind, hrun], rfl⟩
  | ok written =>
    obtain ⟨printed, hprints⟩ := hf written w₁
    refine ⟨w.printed, _, w₁, { w₁ with printed }, hrun, ?_, rfl⟩
    rw [perform_bind, hrun]
    exact hprints

theorem print {x : ExceptT Error (StateM Workspace) Unit}
    {f : Unit → ExceptT Error (StateM Workspace) (List String)} (hx : Prints x)
    (hf : Carries s (f ())) : Carries s (x >>= f) := by
  intro w
  obtain ⟨printed, hprints⟩ := hx w
  obtain ⟨printed', r, w₁, w', hrun, hf', hfiles⟩ := hf { w with printed }
  refine ⟨printed', r, w₁, w', hrun, ?_, hfiles⟩
  rw [perform_bind, hprints]
  exact hf'

theorem printIf {x : ExceptT Error (StateM Workspace) Unit}
    {f : Unit → ExceptT Error (StateM Workspace) (List String)} (c : Bool) (hx : Prints x)
    (hf : Carries s (f ())) : Carries s (if c = true then x >>= f else f ()) := by
  cases c with
  | true => exact .print hx hf
  | false => exact hf

end Carries

/-! ## Settings -/

theorem ordered_addContracts {arguments : List String} {s s' : Settings}
    (hs : Settings.Ordered s.contracts) (h : addContracts s arguments = .ok s') :
    Settings.Ordered s'.contracts := by
  induction arguments generalizing s with
  | nil =>
    obtain rfl := Except.ok.inj h
    exact hs
  | cons argument rest ih =>
    rw [addContracts, List.foldlM_cons] at h
    obtain ⟨s₁, hfirst, hrest⟩ := bind_eq_ok_iff.mp h
    obtain ⟨⟨name, path⟩, -, hpair⟩ := bind_eq_ok_iff.mp hfirst
    obtain rfl := Except.ok.inj hpair
    exact ih (hs.insertContract name path) hrest

theorem ordered_overlay {a : Arguments} {s s' : Settings} (hs : Settings.Ordered s.contracts)
    (h : a.overlay s = .ok s') : Settings.Ordered s'.contracts := by
  obtain ⟨s₁, hadd, hset⟩ := bind_eq_ok_iff.mp h
  obtain rfl := Except.ok.inj hset
  have hadded := ordered_addContracts hs hadd
  exact hadded

theorem ordered_readSettings {path : String} {w w' : Workspace} {s : Settings}
    (h : perform (readSettings path).run w = (.ok s, w')) : Settings.Ordered s.contracts := by
  obtain ⟨text, w₁, -, hread⟩ := perform_bind_eq_ok.mp h
  obtain ⟨s₁, w₂, htoml, hbase⟩ := perform_bind_eq_ok.mp hread
  rw [perform_ofResult] at htoml
  have hparsed := mapError_eq_ok_iff.mp (Prod.mk.inj htoml).1
  obtain ⟨members, -, hvalues⟩ := bind_eq_ok_iff.mp hparsed
  have hs₁ := Settings.ordered_ofValues hvalues
  split at hbase
  · obtain ⟨rfl, -⟩ := perform_pure_eq_ok.mp hbase
    exact Settings.ordered_relativeTo hs₁ _
  · obtain ⟨rfl, -⟩ := perform_pure_eq_ok.mp hbase
    exact hs₁

/-- The settings that arguments ask for have their contracts in order. -/
theorem ordered_settings {a : Arguments} {w w' : Workspace} {s : Settings}
    (h : perform a.settings.run w = (.ok s, w')) : Settings.Ordered s.contracts := by
  have hoverlay : ∀ {s₁ : Settings} {w₁ : Workspace}, Settings.Ordered s₁.contracts →
      perform (ofResult (m := StateM Workspace) ((a.overlay s₁).mapError Error.config)).run w₁ =
        (.ok s, w') → Settings.Ordered s.contracts := by
    intro s₁ w₁ hs₁ hresult
    rw [perform_ofResult] at hresult
    exact ordered_overlay hs₁ (mapError_eq_ok_iff.mp (Prod.mk.inj hresult).1)
  rw [Arguments.settings] at h
  split at h
  · obtain ⟨s₁, w₁, hread, hrest⟩ := perform_bind_eq_ok.mp h
    exact hoverlay (ordered_readSettings hread) hrest
  · obtain ⟨s₁, w₁, hdefault, hrest⟩ := perform_bind_eq_ok.mp h
    obtain ⟨rfl, -⟩ := perform_pure_eq_ok.mp hdefault
    have hnone : Settings.Ordered ({} : Settings).contracts := List.Pairwise.nil
    exact hoverlay hnone hrest

/-! ## Checks -/

/-- The file that a path leads to is JSON. -/
def FileSystem.DenotesJson (fs : FileSystem) (path : String) : Prop :=
  ∃ text v, fs.readText path = .ok text ∧ Json.parse text = .ok v

theorem exists?_of_readText {fs : FileSystem} {path text : String}
    (h : fs.readText path = .ok text) : fs.exists? path = .ok true := by
  obtain ⟨l, -, hlocate, -⟩ := readText_eq_ok_iff.mp h
  rw [exists?, hlocate]

/-- An interface is accepted exactly when it is there and is JSON. -/
theorem perform_checkInput (path : String) (w : Workspace) :
    (w.files.DenotesJson path ∧ perform (checkInput path).run w = (.ok (), w)) ∨
      (¬ w.files.DenotesJson path ∧ ∃ e, perform (checkInput path).run w = (.error e, w)) := by
  rw [checkInput, perform_bind, perform_orFail, perform_exists?]
  cases hread : w.files.readText path with
  | error fault =>
    refine .inr ⟨?_, ?_⟩
    · rintro ⟨text, v, hok, -⟩
      simp [hread] at hok
    · cases w.files.exists? path with
      | error fault => exact ⟨_, rfl⟩
      | ok found =>
        cases found with
        | false => exact ⟨_, rfl⟩
        | true =>
          simp only [Except.mapError, if_true]
          rw [perform_bind, perform_orFail, perform_readText, hread]
          exact ⟨_, rfl⟩
  | ok text =>
    rw [exists?_of_readText hread]
    simp only [Except.mapError, if_true]
    rw [perform_bind, perform_orFail, perform_readText, hread]
    simp only [Except.mapError]
    cases hparse : Json.parse text with
    | error cause =>
      refine .inr ⟨?_, _, rfl⟩
      rintro ⟨text', v, hok, hjson⟩
      obtain rfl : text = text' := by simpa [hread] using hok
      simp [hparse] at hjson
    | ok v => exact .inl ⟨⟨text, v, hread, hparse⟩, rfl⟩

theorem perform_checkInputs (entries : List (String × String)) (w : Workspace) :
    ((∀ e ∈ entries, w.files.DenotesJson e.2) ∧
        perform (entries.forM fun e => checkInput e.2).run w = (.ok (), w)) ∨
      ((¬ ∀ e ∈ entries, w.files.DenotesJson e.2) ∧
        ∃ e, perform (entries.forM fun e => checkInput e.2).run w = (.error e, w)) := by
  induction entries with
  | nil => exact .inl ⟨by simp, rfl⟩
  | cons entry rest ih =>
    have hcons : ((entry :: rest).forM fun e =>
        (checkInput e.2 : ExceptT Error (StateM Workspace) Unit)) =
        checkInput entry.2 >>= fun _ => rest.forM fun e => checkInput e.2 := rfl
    rw [hcons, perform_bind, List.forall_mem_cons]
    rcases perform_checkInput entry.2 w with ⟨hjson, hfirst⟩ | ⟨hnot, e, hfirst⟩
    · rw [hfirst]
      exact ih.imp (fun h => ⟨⟨hjson, h.1⟩, h.2⟩) fun h => ⟨fun hall => h.1 hall.2, h.2⟩
    · rw [hfirst]
      exact .inr ⟨fun hall => hnot hall.1, e, rfl⟩

/-- The settings that the arguments ask for are read and valid, and each of their interfaces is
JSON. -/
structure Arguments.Accepted (a : Arguments) (w : Workspace) (s : Settings) : Prop where
  settings : perform a.settings.run w = (.ok s, w)
  valid : s.validate = .ok ()
  inputs : ∀ e ∈ s.contracts, w.files.DenotesJson e.2

/-! ## Commands -/

/-- The ends of a command: it is refused, or it ends as the run does. -/
inductive CommandOutcome (a : Arguments) (w : Workspace) :
    Except Error (List String) → Workspace → Prop
  | refused {e : Error} (hrefused : ∀ s, ¬ a.Accepted w s) : CommandOutcome a w (.error e) w
  | begun {s : Settings} {printed : String} {r : Except Error (List String)} {w₁ w' : Workspace}
      (haccepted : a.Accepted w s) (hrun : perform (generate s).run { w with printed } = (r, w₁))
      (hfiles : w'.files = w₁.files) : CommandOutcome a w r w'

theorem Carries.outcome {a : Arguments} {s : Settings} {w w' : Workspace}
    {r : Except Error (List String)} {x : ExceptT Error (StateM Workspace) (List String)}
    (hx : Carries s x) (haccepted : a.Accepted w s) (h : perform x.run w = (r, w')) :
    CommandOutcome a w r w' := by
  obtain ⟨printed, r', w₁, w'', hrun, hx', hfiles⟩ := hx w
  cases hx'.symm.trans h
  exact .begun haccepted hrun hfiles

theorem command_outcome {a : Arguments} {w w' : Workspace} {r : Except Error (List String)}
    (h : perform a.run.run w = (r, w')) : CommandOutcome a w r w' := by
  rw [Arguments.run, perform_bind] at h
  obtain ⟨r₁, w₁, hsettings⟩ := exists_perform (a.settings : ExceptT Error _ _).run w
  obtain rfl : w₁ = w := by simpa [hsettings] using reads_settings a w
  rw [hsettings] at h
  cases r₁ with
  | error e =>
    cases h
    exact .refused fun s hs => by simpa [hsettings] using hs.settings
  | ok s =>
    -- no other settings can be accepted than those that are read
    have hunique : ∀ {s'}, a.Accepted w₁ s' → s' = s := fun hs => by
      simpa [hsettings, eq_comm] using hs.settings
    dsimp only at h
    rw [perform_bind, perform_ofResult] at h
    cases hvalid : s.validate with
    | error fault =>
      rw [hvalid] at h
      cases h
      refine .refused fun s' hs => ?_
      have hs' := hs.valid
      rw [hunique hs, hvalid] at hs'
      simp at hs'
    | ok u =>
      rw [hvalid] at h
      simp only [Except.mapError] at h
      rw [perform_bind] at h
      rcases perform_checkInputs s.contracts w₁ with ⟨hjson, hchecks⟩ | ⟨hnot, e, hchecks⟩
      · rw [hchecks] at h
        dsimp only at h
        have haccepted : a.Accepted w₁ s := ⟨hsettings, hvalid, hjson⟩
        -- what is left prints, runs, and prints
        have hrest : Carries s (do
            let written ← generate s
            if !s.dryRun then
              printLine ("✅ Generated " ++ toString written.length ++ " binding file(s)")
              printLine ("📁 Generated files are located in: " ++ s.outputDirectory)
            return written) := by
          refine .generate fun written w => ?_
          cases s.dryRun with
          | true => exact ⟨w.printed, rfl⟩
          | false => exact ⟨_, rfl⟩
        refine Carries.outcome (.printIf a.verbose (prints_printLines s.summary) ?_) haccepted h
        split
        · exact .print (prints_printLine _) hrest
        · exact .print (prints_printLine _) hrest
      · rw [hchecks] at h
        cases h
        exact .refused fun s' hs => hnot (hunique hs ▸ hs.inputs)

end AbiBindings
