import AbiBindings.Proofs.Workspace.Places
import AbiBindings.Workspace.Settings
import Mathlib.Data.List.Sort
import Mathlib.Data.String.Basic

/-! # What settings promise

Valid settings name their contracts by words and have an extension without points and slashes
(`validate_eq_ok`). So the file that a contract is written to has a name of its own, with that
extension, and its place is right below the output directory (`place_outputPath`).

The contracts are in the order of their names, each once: reading settings, putting contracts in and
taking paths from a base all keep them so (`ordered_ofValues`, `Ordered.insertContract`). So they are
determined by what is among them (`Ordered.eq_of_mem_iff`). -/

namespace AbiBindings
namespace Settings
set_option autoImplicit false

/-! ## Validity -/

theorem of_isExtension {extension : String} (h : isExtension extension = true) :
    extension ≠ "" ∧ '.' ∉ extension.toList ∧ '/' ∉ extension.toList := by
  simp only [isExtension, Bool.and_eq_true, List.all_eq_true, bne_iff_ne, ne_eq] at h
  obtain ⟨hempty, hall⟩ := h
  refine ⟨by simpa using hempty, fun hmem => (hall _ hmem).1.1 rfl, fun hmem => ?_⟩
  exact (hall _ hmem).1.2 rfl

theorem of_isContractName {name : String} (h : isContractName name = true) :
    name ≠ "" ∧ '/' ∉ name.toList := by
  unfold isContractName at h
  split at h
  · simp at h
  · rename_i c rest hname
    refine ⟨fun hempty => by simp [hempty] at hname, fun hmem => ?_⟩
    simp only [Bool.and_eq_true, List.all_eq_true] at h
    rw [hname] at hmem
    rcases List.mem_cons.mp hmem with rfl | hmem
    · exact absurd h.1 (by decide)
    · exact absurd (h.2 _ hmem) (by decide)

variable {s : Settings} {contract : String}

theorem validate_eq_ok (h : s.validate = .ok ()) :
    (∀ e ∈ s.contracts, isContractName e.1 = true) ∧ isExtension s.extension = true := by
  have hcheck : ∀ entries : List (String × String), (entries.forM fun e => checkContractName e.1) =
      .ok () → ∀ e ∈ entries, isContractName e.1 = true := by
    intro entries
    induction entries with
    | nil => simp
    | cons e rest ih =>
      intro hall
      obtain ⟨⟨⟩, hname, hrest⟩ := bind_eq_ok_iff.mp hall
      refine List.forall_mem_cons.mpr ⟨?_, ih hrest⟩
      by_contra hinvalid
      simp [checkContractName, hinvalid] at hname
  cases hempty : s.contracts.isEmpty with
  | true => simp [validate, hempty, throw, throwThe, MonadExceptOf.throw, bind, Except.bind] at h
  | false =>
    have hrun : (s.contracts.forM fun e => checkContractName e.1) >>= (fun _ =>
        if !isExtension s.extension then throw (.badExtension s.extension) else pure ()) =
        .ok () := by
      rw [← h, validate, hempty]
      rfl
    obtain ⟨⟨⟩, hnames, hextension⟩ := bind_eq_ok_iff.mp hrun
    refine ⟨hcheck _ hnames, ?_⟩
    cases hvalid : isExtension s.extension with
    | true => rfl
    | false => simp [hvalid, throw, throwThe, MonadExceptOf.throw] at hextension

/-! ## Output files -/

/-- The name of the file that the bindings of a contract are written to. -/
def outputName (s : Settings) (contract : String) : String :=
  contract ++ "." ++ s.extension

theorem isEntryName_outputName (hcontract : isContractName contract = true)
    (hextension : isExtension s.extension = true) : isEntryName (s.outputName contract) = true := by
  obtain ⟨hne, hslash⟩ := of_isContractName hcontract
  obtain ⟨hne', -, hslash'⟩ := of_isExtension hextension
  have hpos : 0 < contract.toList.length := List.length_pos_iff.mpr (by simpa using hne)
  have hpos' : 0 < s.extension.toList.length := List.length_pos_iff.mpr (by simpa using hne')
  have hlength : 2 < (s.outputName contract).toList.length := by
    simp only [outputName, String.toList_append, List.length_append]
    simp only [String.reduceToList, List.length_cons, List.length_nil]
    omega
  refine isEntryName_iff.mpr ⟨?_, ?_, ?_, ?_⟩
  · intro h
    simp [h] at hlength
  · intro h
    simp [h] at hlength
  · intro h
    simp [h] at hlength
  · simp [outputName, hslash, hslash']

theorem extension?_outputName (hcontract : isContractName contract = true)
    (hextension : isExtension s.extension = true) :
    PathText.extension? (s.outputName contract) = some s.extension := by
  obtain ⟨hne, -⟩ := of_isContractName hcontract
  obtain ⟨-, hpoint, -⟩ := of_isExtension hextension
  have hreverse : (s.outputName contract).toList.reverse =
      s.extension.toList.reverse ++ '.' :: contract.toList.reverse := by
    simp [outputName]
  have hkept : ∀ c ∈ s.extension.toList.reverse, (c != '.') = true := by
    intro c hc
    rw [bne_iff_ne]
    rintro rfl
    exact hpoint (List.mem_reverse.mp hc)
  have hdrop : (s.extension.toList.reverse ++ '.' :: contract.toList.reverse).dropWhile (· != '.') =
      '.' :: contract.toList.reverse := by
    rw [List.dropWhile_append_of_pos hkept]
    simp
  have htake : (s.extension.toList.reverse ++ '.' :: contract.toList.reverse).takeWhile (· != '.') =
      s.extension.toList.reverse := by
    rw [List.takeWhile_append_of_pos hkept]
    simp
  obtain ⟨c, rest, hrest⟩ := List.exists_cons_of_ne_nil (l := contract.toList.reverse)
    (by simpa using hne)
  rw [PathText.extension?, hreverse, hdrop, htake, hrest, List.reverse_reverse, String.ofList_toList]

theorem place_outputPath (fs : FileSystem) (hcontract : isContractName contract = true)
    (hextension : isExtension s.extension = true) :
    fs.place (s.outputPath contract) = fs.place s.outputDirectory ++ [s.outputName contract] :=
  fs.place_join _ (isEntryName_outputName hcontract hextension)

/-! ## The order of contracts -/

/-- The contracts are in the order of their names, each once. -/
def Ordered (entries : List (String × String)) : Prop :=
  entries.Pairwise fun a b => a.1 < b.1

instance (entries : List (String × String)) : Decidable (Ordered entries) :=
  inferInstanceAs (Decidable (entries.Pairwise _))

theorem fst_mem_insertContract {name path : String} {entries : List (String × String)}
    {e : String × String} (he : e ∈ insertContract name path entries) :
    e.1 = name ∨ ∃ d ∈ entries, e.1 = d.1 := by
  induction entries with
  | nil => exact .inl (by rw [List.mem_singleton.mp he])
  | cons d rest ih =>
    rw [insertContract] at he
    split at he
    · rcases List.mem_cons.mp he with rfl | he
      · exact .inl rfl
      · exact .inr ⟨e, he, rfl⟩
    · split at he
      · rcases List.mem_cons.mp he with rfl | he
        · exact .inl rfl
        · exact .inr ⟨e, List.mem_cons_of_mem _ he, rfl⟩
      · rcases List.mem_cons.mp he with rfl | he
        · exact .inr ⟨_, List.mem_cons_self, rfl⟩
        · exact (ih he).imp id fun ⟨d', hd', heq⟩ => ⟨d', List.mem_cons_of_mem _ hd', heq⟩

theorem Ordered.insertContract {entries : List (String × String)} (h : Ordered entries)
    (name path : String) : Ordered (insertContract name path entries) := by
  induction entries with
  | nil => exact List.pairwise_singleton _ _
  | cons d rest ih =>
    obtain ⟨hd, hrest⟩ := List.pairwise_cons.mp h
    rw [AbiBindings.insertContract]
    split
    · rename_i hlt
      refine List.pairwise_cons.mpr ⟨fun e he => ?_, h⟩
      rcases List.mem_cons.mp he with rfl | he
      · exact hlt
      · exact lt_trans hlt (hd e he)
    · rename_i hnot
      split
      · rename_i heq
        exact List.pairwise_cons.mpr ⟨fun e he => heq ▸ hd e he, hrest⟩
      · rename_i hne
        have hgt : d.1 < name := lt_of_le_of_ne (not_lt.mp hnot) (Ne.symm hne)
        refine List.pairwise_cons.mpr ⟨fun e he => ?_, ih hrest⟩
        rcases fst_mem_insertContract he with heq | ⟨e', he', heq⟩
        · rw [heq]
          exact hgt
        · rw [heq]
          exact hd e' he'

/-- What is put in takes the place of what the contract had before. -/
theorem mem_insertContract {name path : String} {entries : List (String × String)}
    (h : Ordered entries) {e : String × String} : e ∈ AbiBindings.insertContract name path entries ↔
      e = (name, path) ∨ e.1 ≠ name ∧ e ∈ entries := by
  induction entries with
  | nil => simp [AbiBindings.insertContract]
  | cons d rest ih =>
    obtain ⟨hd, hrest⟩ := List.pairwise_cons.mp h
    rw [AbiBindings.insertContract]
    split
    · rename_i hlt
      -- all the others come behind
      have hothers : e ∈ d :: rest → e.1 ≠ name := by
        intro he
        rcases List.mem_cons.mp he with rfl | he
        · exact ne_of_gt hlt
        · exact ne_of_gt (lt_trans hlt (hd e he))
      rw [List.mem_cons, and_iff_right_of_imp hothers]
    · split
      · rename_i heq
        have hothers : e ∈ rest → e.1 ≠ name := fun he => heq ▸ ne_of_gt (hd e he)
        rw [List.mem_cons, List.mem_cons, and_or_left, and_iff_right_of_imp hothers]
        refine or_congr_right (or_iff_right ?_).symm
        rintro ⟨hne, rfl⟩
        exact hne heq.symm
      · rename_i hne
        have hother : e = d → e.1 ≠ name := fun heq => heq ▸ Ne.symm hne
        rw [List.mem_cons, ih hrest, List.mem_cons, and_or_left, and_iff_right_of_imp hother,
          or_left_comm]

/-- Entries in order are determined by what is among them. -/
theorem Ordered.eq_of_mem_iff {entries others : List (String × String)} (h : Ordered entries)
    (h' : Ordered others) (hmem : ∀ e, e ∈ entries ↔ e ∈ others) : entries = others := by
  have hasymm : ∀ a b : String × String, a.1 < b.1 → b.1 < a.1 → a = b :=
    fun a b hab hba => absurd hba (lt_asymm hab)
  have : Std.Antisymm fun a b : String × String => a.1 < b.1 := ⟨hasymm⟩
  have : Std.Irrefl fun a b : String × String => a.1 < b.1 := ⟨fun a => lt_irrefl a.1⟩
  exact List.Pairwise.eq_of_mem_iff h h' hmem

/-- Settings that are read have their contracts in order. -/
theorem ordered_ofValues {value? : String → Option Value} (h : ofValues value? = .ok s) :
    Ordered s.contracts := by
  have hmembers : ∀ members : List (String × String), ∀ all, Ordered all →
      Ordered (members.foldl (fun all e => insertContract e.1 e.2 all) all) := by
    intro members
    induction members with
    | nil => exact fun all hall => hall
    | cons e rest ih => exact fun all hall => ih _ (hall.insertContract e.1 e.2)
  obtain ⟨outputDirectory, -, h⟩ := bind_eq_ok_iff.mp h
  obtain ⟨library, -, h⟩ := bind_eq_ok_iff.mp h
  obtain ⟨extension, -, h⟩ := bind_eq_ok_iff.mp h
  -- the contracts are the given ones whatever the two settings behind them say
  have hrest : ∀ contracts, Ordered contracts →
      (do
        let clean ← flagValue value? "clean" ({} : Settings).clean
        let dryRun ← flagValue value? "dry_run" ({} : Settings).dryRun
        pure (Settings.mk outputDirectory library extension contracts clean dryRun)) = .ok s →
      Ordered s.contracts := by
    intro contracts hcontracts hrun
    obtain ⟨clean, -, hrun⟩ := bind_eq_ok_iff.mp hrun
    obtain ⟨dryRun, -, hrun⟩ := bind_eq_ok_iff.mp hrun
    obtain rfl := Except.ok.inj hrun
    exact hcontracts
  dsimp only at h
  split at h
  · exact hrest _ List.Pairwise.nil h
  · exact hrest _ (hmembers _ _ List.Pairwise.nil) h
  · simp [bind, Except.bind] at h

/-- Paths that are taken from a base leave the order alone. -/
theorem ordered_relativeTo (h : Ordered s.contracts) (base : String) :
    Ordered (s.relativeTo base).contracts :=
  List.pairwise_map.mpr h

end Settings
end AbiBindings
