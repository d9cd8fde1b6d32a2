import AbiBindings.Proofs.Command.Outcome

/-! # Arguments over settings

An argument that names a contract counts when a contract's name and a path stand around its first
equals sign (`Pairs`, `contractPair_eq_ok_iff`). The settings that are asked for are those of the
file with such contracts put in one by one. So a contract has the path of the last argument that
names it, and only without one that of the file (`mem_addContracts_iff`); and as contracts are kept
in order, the order of arguments that name different contracts does not matter. -/

namespace AbiBindings
set_option autoImplicit false

/-! ## One argument -/

/-- An argument pairs a contract with a path: in front of its first equals sign and behind it, with
white space around them that does not count. -/
structure Pairs (argument name path : String) : Prop where
  sides : ∃ left right, argument = left ++ "=" ++ right ∧ '=' ∉ left.toList ∧
    name = Text.trim left ∧ path = Text.trim right
  isName : Settings.isContractName name = true
  path_ne : path ≠ ""

theorem checkContractName_eq_ok_iff {name : String} :
    Settings.checkContractName name = .ok () ↔ Settings.isContractName name = true := by
  rw [Settings.checkContractName]
  split <;> simp_all

theorem contractPair_append {left : String} (h : '=' ∉ left.toList) (right : String) :
    contractPair (left ++ "=" ++ right) = (do
      Settings.checkContractName (Text.trim left)
      if (Text.trim right).isEmpty then throw (.noPath (Text.trim left))
      return (Text.trim left, Text.trim right)) := by
  have hkept : ∀ c ∈ left.toList, (c != '=') = true := by
    intro c hc
    rw [bne_iff_ne]
    rintro rfl
    exact h hc
  have htext : (left ++ "=" ++ right).toList = left.toList ++ '=' :: right.toList := by simp
  simp only [contractPair, htext, List.dropWhile_append_of_pos hkept,
    List.takeWhile_append_of_pos hkept]
  simp

theorem exists_sides_of_contractPair {argument : String} {e : String × String}
    (h : contractPair argument = .ok e) :
    ∃ left right, argument = left ++ "=" ++ right ∧ '=' ∉ left.toList := by
  unfold contractPair at h
  dsimp only at h
  split at h
  · cases h
  · rename_i c rest hdrop
    have hc : c = '=' := by
      have := List.head?_dropWhile_not (· != '=') argument.toList
      simpa [hdrop] using this
    have hsplit := List.takeWhile_append_dropWhile (p := (· != '=')) (l := argument.toList)
    rw [hdrop, hc] at hsplit
    refine ⟨String.ofList (argument.toList.takeWhile (· != '=')), String.ofList rest, ?_, ?_⟩
    · rw [← String.toList_inj]
      simpa using hsplit.symm
    · rw [String.toList_ofList]
      intro hmem
      exact absurd (List.all_eq_true.mp List.all_takeWhile _ hmem) (by decide)

theorem contractPair_eq_ok_iff {argument name path : String} :
    contractPair argument = .ok (name, path) ↔ Pairs argument name path := by
  have hrun : ∀ left right : String, (do
      Settings.checkContractName (Text.trim left)
      if (Text.trim right).isEmpty then throw (.noPath (Text.trim left))
      return (Text.trim left, Text.trim right)) = (.ok (name, path) : Except ConfigFault _) ↔
      name = Text.trim left ∧ path = Text.trim right ∧ Settings.isContractName name = true ∧
        path ≠ "" := by
    intro left right
    rw [bind_eq_ok_iff]
    cases hempty : (Text.trim right).isEmpty with
    | true =>
      have hpath : Text.trim right = "" := by simpa using hempty
      constructor
      · rintro ⟨-, -, h⟩
        cases h
      · rintro ⟨-, rfl, -, hne⟩
        exact absurd hpath hne
    | false =>
      have hpath : Text.trim right ≠ "" := by simpa using hempty
      constructor
      · rintro ⟨⟨⟩, hvalid, h⟩
        obtain ⟨rfl, rfl⟩ := Prod.mk.inj (Except.ok.inj h)
        exact ⟨rfl, rfl, checkContractName_eq_ok_iff.mp hvalid, hpath⟩
      · rintro ⟨rfl, rfl, hvalid, -⟩
        exact ⟨(), checkContractName_eq_ok_iff.mpr hvalid, rfl⟩
  constructor
  · intro h
    obtain ⟨left, right, rfl, hleft⟩ := exists_sides_of_contractPair h
    rw [contractPair_append hleft, hrun] at h
    obtain ⟨hname, hpath, hvalid, hne⟩ := h
    exact ⟨⟨left, right, rfl, hleft, hname, hpath⟩, hvalid, hne⟩
  · rintro ⟨⟨left, right, rfl, hleft, hname, hpath⟩, hvalid, hne⟩
    rw [contractPair_append hleft, hrun]
    exact ⟨hname, hpath, hvalid, hne⟩

theorem Pairs.unique {argument name path name' path' : String} (h : Pairs argument name path)
    (h' : Pairs argument name' path') : name' = name ∧ path' = path := by
  have heq := (contractPair_eq_ok_iff.mpr h').symm.trans (contractPair_eq_ok_iff.mpr h)
  exact Prod.mk.inj (Except.ok.inj heq)

/-! ## All arguments -/

/-- No argument names the contract. -/
def Unnamed (arguments : List String) (name : String) : Prop :=
  ∀ argument ∈ arguments, ∀ path, ¬ Pairs argument name path

/-- The last argument that names the contract gives it the path. -/
def LastNamed (arguments : List String) (name path : String) : Prop :=
  ∃ before argument after, arguments = before ++ argument :: after ∧ Pairs argument name path ∧
    Unnamed after name

theorem lastNamed_cons_iff {argument : String} {arguments : List String} {name path : String} :
    LastNamed (argument :: arguments) name path ↔ LastNamed arguments name path ∨
      Pairs argument name path ∧ Unnamed arguments name := by
  constructor
  · rintro ⟨before, last, after, heq, hpairs, hafter⟩
    cases before with
    | nil =>
      obtain ⟨rfl, rfl⟩ : argument = last ∧ arguments = after := by simpa using heq
      exact .inr ⟨hpairs, hafter⟩
    | cons first before =>
      obtain ⟨rfl, rfl⟩ : argument = first ∧ arguments = before ++ last :: after := by
        simpa using heq
      exact .inl ⟨before, last, after, rfl, hpairs, hafter⟩
  · rintro (⟨before, last, after, rfl, hpairs, hafter⟩ | ⟨hpairs, hrest⟩)
    · exact ⟨argument :: before, last, after, rfl, hpairs, hafter⟩
    · exact ⟨[], argument, arguments, rfl, hpairs, hrest⟩

theorem unnamed_cons_iff {argument : String} {arguments : List String} {name : String} :
    Unnamed (argument :: arguments) name ↔
      (∀ path, ¬ Pairs argument name path) ∧ Unnamed arguments name :=
  List.forall_mem_cons

/-- No two arguments name the same contract. -/
def NamedApart (arguments : List String) : Prop :=
  arguments.Pairwise fun x y => ∀ name path path', Pairs x name path → ¬ Pairs y name path'

theorem NamedApart.perm {arguments others : List String} (h : NamedApart arguments)
    (hperm : others.Perm arguments) : NamedApart others :=
  (hperm.pairwise_iff fun hxy name path path' hy hx => hxy name path' path hx hy).mpr h

/-- Where no two arguments name the same contract, each that names one is the last. -/
theorem NamedApart.lastNamed_iff {arguments : List String} (hapart : NamedApart arguments)
    {name path : String} :
    LastNamed arguments name path ↔ ∃ argument ∈ arguments, Pairs argument name path := by
  constructor
  · rintro ⟨before, argument, after, rfl, hpairs, -⟩
    exact ⟨argument, by simp, hpairs⟩
  · rintro ⟨argument, hmem, hpairs⟩
    obtain ⟨before, after, rfl⟩ := List.append_of_mem hmem
    have hafter := (List.pairwise_cons.mp (List.pairwise_append.mp hapart).2.1).1
    exact ⟨before, argument, after, rfl, hpairs, fun later hlater path' =>
      hafter later hlater name path path' hpairs⟩

/-- A step puts in the contract that the argument names. -/
theorem addContracts_cons_eq_ok_iff {s s' : Settings} {argument : String}
    {arguments : List String} : addContracts s (argument :: arguments) = .ok s' ↔
      ∃ name path, Pairs argument name path ∧
        addContracts { s with contracts := insertContract name path s.contracts } arguments =
          .ok s' := by
  rw [addContracts, List.foldlM_cons, bind_eq_ok_iff]
  constructor
  · rintro ⟨s₁, hfirst, hrest⟩
    obtain ⟨⟨name, path⟩, hpair, hs₁⟩ := bind_eq_ok_iff.mp hfirst
    obtain rfl := Except.ok.inj hs₁
    exact ⟨name, path, contractPair_eq_ok_iff.mp hpair, hrest⟩
  · rintro ⟨name, path, hpairs, hrest⟩
    refine ⟨_, bind_eq_ok_iff.mpr ⟨(name, path), contractPair_eq_ok_iff.mpr hpairs, rfl⟩, hrest⟩

theorem exists_addContracts_iff {arguments : List String} {s : Settings} :
    (∃ s', addContracts s arguments = .ok s') ↔
      ∀ argument ∈ arguments, ∃ name path, Pairs argument name path := by
  induction arguments generalizing s with
  | nil => exact iff_of_true ⟨s, rfl⟩ (by simp)
  | cons argument arguments ih =>
    simp only [addContracts_cons_eq_ok_iff, List.forall_mem_cons]
    constructor
    · rintro ⟨s', name, path, hpairs, hrest⟩
      exact ⟨⟨name, path, hpairs⟩, ih.mp ⟨s', hrest⟩⟩
    · rintro ⟨⟨name, path, hpairs⟩, hall⟩
      obtain ⟨s', hrest⟩ := ih.mpr hall
      exact ⟨s', name, path, hpairs, hrest⟩

/-- Arguments change nothing but the contracts. -/
theorem addContracts_eq {arguments : List String} {s s' : Settings}
    (h : addContracts s arguments = .ok s') : s' = { s with contracts := s'.contracts } := by
  induction arguments generalizing s with
  | nil =>
    obtain rfl := Except.ok.inj h
    rfl
  | cons argument arguments ih =>
    obtain ⟨name, path, -, hrest⟩ := addContracts_cons_eq_ok_iff.mp h
    have hrest := ih hrest
    exact hrest

/-- A contract has the path of the last argument that names it, and without one the path that it
had. -/
theorem mem_addContracts_iff {arguments : List String} {s s' : Settings}
    (hs : Settings.Ordered s.contracts) (h : addContracts s arguments = .ok s')
    {name path : String} : (name, path) ∈ s'.contracts ↔
      LastNamed arguments name path ∨ Unnamed arguments name ∧ (name, path) ∈ s.contracts := by
  induction arguments generalizing s with
  | nil =>
    obtain rfl := Except.ok.inj h
    simp [LastNamed, Unnamed]
  | cons argument arguments ih =>
    obtain ⟨first, firstPath, hpairs, hrest⟩ := addContracts_cons_eq_ok_iff.mp h
    have hfirst : Pairs argument name path ↔ name = first ∧ path = firstPath :=
      ⟨fun h => hpairs.unique h, fun h => h.1 ▸ h.2 ▸ hpairs⟩
    have hother : (∀ path, ¬ Pairs argument name path) ↔ name ≠ first :=
      ⟨fun h heq => h firstPath (heq ▸ hpairs), fun hne path h => hne (hpairs.unique h).1⟩
    rw [ih (hs.insertContract first firstPath) hrest, Settings.mem_insertContract hs,
      lastNamed_cons_iff, unnamed_cons_iff, hfirst, hother, Prod.mk.injEq]
    tauto

/-! ## Settings with arguments over them -/

namespace Arguments

/-- A path in the settings file that the arguments name, taken from the file's directory. -/
def resolve (a : Arguments) (path : String) : String :=
  match a.settings? with
  | some file =>
    match PathText.parent? file with
    | some base => PathText.join base path
    | none => path
  | none => path

/-- The settings as they are written in the file that the arguments name; the default ones where
they name none. -/
def Loads (a : Arguments) (fs : FileSystem) (s : Settings) : Prop :=
  match a.settings? with
  | some file => ∃ text, fs.readText file = .ok text ∧ Settings.ofToml text = .ok s
  | none => s = {}

/-- The settings that the arguments are put over. -/
def base (a : Arguments) (s : Settings) : Settings :=
  { s with
    outputDirectory := a.resolve s.outputDirectory
    contracts := s.contracts.map fun e => (e.1, a.resolve e.2) }

variable {a : Arguments} {w : Workspace} {loaded s : Settings}

theorem perform_settings (h : a.Loads w.files loaded) :
    perform (a.settings : ExceptT Error _ _).run w =
      ((a.overlay (a.base loaded)).mapError Error.config, w) := by
  rw [Arguments.settings]
  cases hfile : a.settings? with
  | none =>
    obtain rfl : loaded = {} := by simpa [Loads, hfile] using h
    have hbase : a.base {} = {} := by simp [base, resolve, hfile]
    rw [hbase]
    rfl
  | some file =>
    obtain ⟨text, hread, htoml⟩ : ∃ text, w.files.readText file = .ok text ∧
        Settings.ofToml text = .ok loaded := by simpa [Loads, hfile] using h
    have hread :
        perform (readSettings file : ExceptT Error _ _).run w = (.ok (a.base loaded), w) := by
      rw [readSettings, perform_bind, perform_orFail, perform_readText, hread]
      simp only [Except.mapError]
      rw [perform_bind, perform_ofResult, htoml]
      simp only
      cases hparent : PathText.parent? file with
      | none =>
        have hbase : a.base loaded = loaded := by simp [base, resolve, hfile, hparent]
        rw [hbase]
        rfl
      | some directory =>
        have hbase : a.base loaded = loaded.relativeTo directory := by
          simp [base, resolve, hfile, hparent, Settings.relativeTo]
        rw [hbase]
        rfl
    rw [perform_bind, hread]
    rfl

theorem ordered_base (h : a.Loads w.files loaded) : Settings.Ordered (a.base loaded).contracts := by
  refine List.pairwise_map.mpr ?_
  cases hfile : a.settings? with
  | none =>
    obtain rfl : loaded = {} := by simpa [Loads, hfile] using h
    exact List.Pairwise.nil
  | some file =>
    obtain ⟨text, -, htoml⟩ : ∃ text, w.files.readText file = .ok text ∧
        Settings.ofToml text = .ok loaded := by simpa [Loads, hfile] using h
    obtain ⟨members, -, hvalues⟩ := bind_eq_ok_iff.mp htoml
    exact Settings.ordered_ofValues hvalues

/-- The settings asked for are those of the file with contracts put in, and then the other things
that the arguments say. -/
theorem settings_eq_ok_iff (h : a.Loads w.files loaded) :
    (perform (a.settings : ExceptT Error _ _).run w).1 = .ok s ↔
      ∃ added, addContracts (a.base loaded) a.contracts = .ok added ∧
        s = { contracts := added.contracts
              outputDirectory := a.outputDirectory?.getD (a.resolve loaded.outputDirectory)
              library := a.library?.getD loaded.library
              extension := loaded.extension
              clean := loaded.clean || a.clean
              dryRun := loaded.dryRun || a.dryRun } := by
  rw [perform_settings h, mapError_eq_ok_iff, overlay, bind_eq_ok_iff]
  refine exists_congr fun added => and_congr_right fun hadded => ?_
  rw [addContracts_eq hadded]
  exact ⟨fun h => (Except.ok.inj h).symm, fun h => congrArg Except.ok h.symm⟩

theorem exists_settings_iff (h : a.Loads w.files loaded) :
    (∃ s, (perform (a.settings : ExceptT Error _ _).run w).1 = .ok s) ↔
      ∀ argument ∈ a.contracts, ∃ name path, Pairs argument name path := by
  simp only [settings_eq_ok_iff h]
  rw [← exists_addContracts_iff (s := a.base loaded)]
  constructor
  · rintro ⟨-, added, hadded, -⟩
    exact ⟨added, hadded⟩
  · rintro ⟨added, hadded⟩
    exact ⟨_, added, hadded, rfl⟩

theorem mem_settings_iff (h : a.Loads w.files loaded)
    (hs : (perform (a.settings : ExceptT Error _ _).run w).1 = .ok s) {name path : String} :
    (name, path) ∈ s.contracts ↔ LastNamed a.contracts name path ∨
      Unnamed a.contracts name ∧ ∃ written, (name, written) ∈ loaded.contracts ∧
        path = a.resolve written := by
  obtain ⟨added, hadded, rfl⟩ := (settings_eq_ok_iff h).mp hs
  rw [mem_addContracts_iff (ordered_base h) hadded]
  refine or_congr_right (and_congr_right fun _ => ?_)
  simp [base, eq_comm]

theorem eq_of_settings (h : a.Loads w.files loaded)
    (hs : (perform (a.settings : ExceptT Error _ _).run w).1 = .ok s) :
    s = { contracts := s.contracts
          outputDirectory := a.outputDirectory?.getD (a.resolve loaded.outputDirectory)
          library := a.library?.getD loaded.library
          extension := loaded.extension
          clean := loaded.clean || a.clean
          dryRun := loaded.dryRun || a.dryRun } := by
  obtain ⟨added, -, rfl⟩ := (settings_eq_ok_iff h).mp hs
  rfl

/-- Arguments that name different contracts ask for the same settings in any order. -/
theorem settings_of_perm {arguments : List String} (h : a.Loads w.files loaded)
    (hperm : arguments.Perm a.contracts) (hapart : NamedApart a.contracts)
    (hs : (perform (settings { a with contracts := arguments } : ExceptT Error _ _).run w).1 =
      .ok s) :
    (perform (a.settings : ExceptT Error _ _).run w).1 = .ok s := by
  have h' : Loads { a with contracts := arguments } w.files loaded := h
  have hall := (exists_settings_iff h').mp ⟨s, hs⟩
  obtain ⟨s', hs'⟩ := (exists_settings_iff h).mpr fun argument hmem =>
    hall argument (hperm.mem_iff.mpr hmem)
  have hlast : ∀ name path, LastNamed arguments name path ↔ LastNamed a.contracts name path := by
    intro name path
    rw [(hapart.perm hperm).lastNamed_iff, hapart.lastNamed_iff]
    simp only [hperm.mem_iff]
  have hunnamed : ∀ name, Unnamed arguments name ↔ Unnamed a.contracts name := by
    intro name
    simp only [Unnamed, hperm.mem_iff]
  have hcontracts : s'.contracts = s.contracts := by
    refine (ordered_settings (Prod.ext hs' rfl)).eq_of_mem_iff
      (ordered_settings (Prod.ext hs rfl)) ?_
    rintro ⟨name, path⟩
    rw [mem_settings_iff h hs', mem_settings_iff h' hs, hlast, hunnamed]
    rfl
  rw [hs', eq_of_settings h hs', eq_of_settings h' hs, hcontracts]
  rfl

/-- Where a file of settings is read, or none is named, the arguments are put over them. That
succeeds exactly when each argument pairs a contract's name with a path. A contract then has the
path of the last argument that names it, or else the one in the file, taken from the file's
directory; no other contract is there. The other things that the arguments say come in place of
those in the file. The order of arguments does not matter where no two of them name the same
contract. -/
theorem arguments_overlay_settings (h : a.Loads w.files loaded) :
    let asked := fun a : Arguments => (perform (a.settings : ExceptT Error _ _).run w).1
    ((∃ s, asked a = .ok s) ↔ ∀ argument ∈ a.contracts, ∃ name path, Pairs argument name path) ∧
    (∀ s, asked a = .ok s → Settings.Ordered s.contracts ∧
      (∀ name path, (name, path) ∈ s.contracts ↔ LastNamed a.contracts name path ∨
        Unnamed a.contracts name ∧ ∃ written, (name, written) ∈ loaded.contracts ∧
          path = a.resolve written) ∧
      s = { contracts := s.contracts
            outputDirectory := a.outputDirectory?.getD (a.resolve loaded.outputDirectory)
            library := a.library?.getD loaded.library
            extension := loaded.extension
            clean := loaded.clean || a.clean
            dryRun := loaded.dryRun || a.dryRun }) ∧
    ∀ arguments, arguments.Perm a.contracts →
      NamedApart a.contracts →
      ∀ s, asked { a with contracts := arguments } = .ok s ↔ asked a = .ok s := by
  intro asked
  refine ⟨exists_settings_iff h, fun s hs => ?_, fun arguments hperm hapart s => ⟨?_, ?_⟩⟩
  · exact ⟨ordered_settings (Prod.ext hs rfl), fun name path => mem_settings_iff h hs,
      eq_of_settings h hs⟩
  · exact settings_of_perm h hperm hapart
  · have h' : Loads { a with contracts := arguments } w.files loaded := h
    exact settings_of_perm h' hperm.symm (hapart.perm hperm)

/-- Two arguments over a file with two contracts: one of these gets another path, the other one is
taken from the directory of the file, and turning the arguments around changes nothing. -/
theorem overlay_of_pool :
    let files : FileSystem := {
      working := ["work"]
      entries := [
        (["work"], .directory), (["work", "conf"], .directory),
        (["work", "conf", "bind.toml"],
          .file (.text "clean = true\n[abis]\nVault = \"v.json\"\nPool = \"p.json\"\n"))] }
    let a : Arguments :=
      { settings? := some "conf/bind.toml", contracts := ["Pool = a=b.json ", "Key=/k.json"] }
    let asked := fun a : Arguments => (perform (a.settings : ExceptT Error _ _).run { files }).1
    ∃ loaded s, a.Loads files loaded ∧ asked a = .ok s ∧ ("Pool", "a=b.json") ∈ s.contracts ∧
      ("Vault", "conf/v.json") ∈ s.contracts ∧ s.clean = true ∧
      asked { a with contracts := ["Key=/k.json", "Pool = a=b.json "] } = .ok s := by
  intro files a asked
  have hread : files.readText "conf/bind.toml" =
      .ok "clean = true\n[abis]\nVault = \"v.json\"\nPool = \"p.json\"\n" := by decide +kernel
  have hwritten : ((Settings.ofToml
      "clean = true\n[abis]\nVault = \"v.json\"\nPool = \"p.json\"\n").toOption.map fun s =>
        (s.contracts, s.clean)) = some ([("Pool", "p.json"), ("Vault", "v.json")], true) := by
    decide +kernel
  obtain ⟨loaded, htoml, hloaded⟩ := Option.map_eq_some_iff.mp hwritten
  obtain ⟨hcontracts, hclean⟩ := Prod.mk.inj hloaded
  have hloads : a.Loads files loaded := ⟨_, hread, toOption_eq_some_iff.mp htoml⟩
  have hpool : Pairs "Pool = a=b.json " "Pool" "a=b.json" :=
    contractPair_eq_ok_iff.mp (by decide +kernel)
  have hkey : Pairs "Key=/k.json" "Key" "/k.json" := contractPair_eq_ok_iff.mp (by decide +kernel)
  have hnamed : ∀ argument ∈ a.contracts, ∃ name path, Pairs argument name path := by
    simp only [a, List.forall_mem_cons, List.not_mem_nil, false_implies, implies_true, and_true]
    exact ⟨⟨_, _, hpool⟩, _, _, hkey⟩
  have hapart : NamedApart a.contracts := by
    refine List.pairwise_pair.mpr fun name path path' h h' => ?_
    have hname := (hpool.unique h).1.symm.trans (hkey.unique h').1
    exact absurd hname (by decide)
  obtain ⟨hexists, hsettings, horder⟩ := arguments_overlay_settings (w := { files }) hloads
  obtain ⟨s, hs⟩ := hexists.mpr hnamed
  obtain ⟨-, hmem, hrest⟩ := hsettings s hs
  have hunnamed : Unnamed a.contracts "Vault" := by
    simp only [Unnamed, a, List.forall_mem_cons, List.not_mem_nil, false_implies, implies_true,
      and_true]
    refine ⟨fun path h => ?_, fun path h => ?_⟩
    · exact absurd (hpool.unique h).1 (by decide)
    · exact absurd (hkey.unique h).1 (by decide)
  have hvault : "conf/v.json" = a.resolve "v.json" := by decide +kernel
  refine ⟨loaded, s, hloads, hs, (hmem _ _).mpr (.inl ?_), (hmem _ _).mpr (.inr ?_), ?_, ?_⟩
  · exact hapart.lastNamed_iff.mpr ⟨_, List.mem_cons_self, hpool⟩
  · exact ⟨hunnamed, "v.json", by simp [hcontracts], hvault⟩
  · rw [hrest, hclean]
    rfl
  · exact (horder _ (.swap _ _ _) hapart s).mpr hs

end Arguments

end AbiBindings
