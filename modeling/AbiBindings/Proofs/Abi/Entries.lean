import AbiBindings.Proofs.Abi.Grammar
import Mathlib.Tactic.SplitIfs

/-! # The grammar of entries

Entries of two types count: functions, among which are those without a type, and events. What they
must look like is `IsFunction` and `IsEvent`, what they declare `DescribesFunction` and
`DescribesEvent`, and what is first wrong with them `FunctionFault` and `EventFault`: the name comes
before the inputs, the inputs before the outputs, and the mutability last. Reading an entry does
what is said of it (`Entry.ofJson_eq_ok_iff`, `Entry.ofJson_eq_error_iff`,
`Entry.exists_ofJson_iff`). -/

namespace AbiBindings
set_option autoImplicit false

/-! ## Names and mutabilities -/

/-- A value with a name that is not empty. -/
def HasName (v : Json) (name : String) : Prop :=
  v.text? "name" = some name ∧ name ≠ ""

theorem nameOfJson_eq_ok_iff {v : Json} {fault : AbiFault} {name : String} :
    nameOfJson v fault = .ok name ↔ HasName v name := by
  unfold nameOfJson HasName
  split
  · rename_i found h
    split
    · rename_i hempty
      refine ⟨nofun, fun hname => absurd hempty ?_⟩
      exact Option.some.inj (h.symm.trans hname.1) ▸ hname.2
    · rename_i hne
      constructor
      · exact fun heq => Except.ok.inj heq ▸ ⟨h, hne⟩
      · exact fun hname => by rw [Option.some.inj (h.symm.trans hname.1)]
  · rename_i h
    exact ⟨nofun, fun hname => by simp [h] at hname⟩

theorem nameOfJson_eq_error_iff {v : Json} {fault found : AbiFault} :
    nameOfJson v fault = .error found ↔ (∀ name, ¬ HasName v name) ∧ found = fault := by
  have hok (name : String) : nameOfJson v fault = .ok name ↔ HasName v name := nameOfJson_eq_ok_iff
  simp only [← hok]
  refine eq_error_iff_of_forall fun e h => ?_
  unfold nameOfJson at h
  split at h
  · split at h
    · exact (Except.error.inj h).symm
    · simp at h
  · exact (Except.error.inj h).symm

theorem Mutability.ofText?_eq_some_iff {word : String} {m : Mutability} :
    ofText? word = some m ↔ word = m.text := by
  constructor
  · intro h
    unfold ofText? at h
    split_ifs at h with hpure hview hnonpayable hpayable
    · exact Option.some.inj h ▸ hpure
    · exact Option.some.inj h ▸ hview
    · exact Option.some.inj h ▸ hnonpayable
    · exact Option.some.inj h ▸ hpayable
  · rintro rfl
    cases m <;> decide

theorem Mutability.ofText?_eq_none_iff {word : String} :
    ofText? word = none ↔ ∀ m : Mutability, word ≠ m.text := by
  rw [Option.eq_none_iff_forall_ne_some]
  exact forall_congr' fun m => not_congr ofText?_eq_some_iff

/-- The mutability that the older flags give: `constant` before `payable`. -/
def flaggedMutability (v : Json) : Mutability :=
  if v.flag "constant" then .view else if v.flag "payable" then .payable else .nonpayable

/-- The mutability of a function is the stated one, or else that of the older flags. -/
structure GivesMutability (v : Json) (m : Mutability) : Prop where
  stated : ∀ word, v.text? "stateMutability" = some word → word = m.text
  unstated : v.text? "stateMutability" = none → m = flaggedMutability v

theorem mutabilityOfJson_eq_ok_iff {v : Json} {function : String} {m : Mutability} :
    mutabilityOfJson v function = .ok m ↔ GivesMutability v m := by
  unfold mutabilityOfJson
  split
  · rename_i word hword
    have hgives : GivesMutability v m ↔ word = m.text := by
      refine ⟨fun h => h.stated word hword, fun h => ⟨fun w hw => ?_, fun hnone => ?_⟩⟩
      · exact Option.some.inj (hw.symm.trans hword) ▸ h
      · simp [hword] at hnone
    rw [hgives, ← Mutability.ofText?_eq_some_iff]
    split
    · rename_i found h
      rw [h, Except.ok.injEq, Option.some.injEq]
    · rename_i h
      rw [h]
      exact ⟨nofun, nofun⟩
  · rename_i hnone
    rw [Except.ok.injEq]
    constructor
    · exact fun h => ⟨fun word hword => by simp [hnone] at hword, fun _ => h.symm⟩
    · exact fun h => (h.unstated hnone).symm

theorem mutabilityOfJson_eq_error_iff {v : Json} {function : String} {fault : AbiFault} :
    mutabilityOfJson v function = .error fault ↔
      ∃ word, v.text? "stateMutability" = some word ∧ (∀ m : Mutability, word ≠ m.text) ∧
        fault = .unknownMutability word function := by
  unfold mutabilityOfJson
  split
  · rename_i word hword
    rw [hword]
    split
    · rename_i m hm
      refine ⟨nofun, ?_⟩
      rintro ⟨w, hw, hunknown, -⟩
      rw [← Mutability.ofText?_eq_none_iff, ← Option.some.inj hw, hm] at hunknown
      simp at hunknown
    · rename_i hm
      rw [Except.error.injEq]
      constructor
      · exact fun h => ⟨word, rfl, Mutability.ofText?_eq_none_iff.mp hm, h.symm⟩
      · rintro ⟨w, hw, -, hfault⟩
        rw [Option.some.inj hw, hfault]
  · rename_i hnone
    rw [hnone]
    exact ⟨nofun, fun ⟨_, hw, _⟩ => absurd hw nofun⟩

/-! ## Functions -/

/-- A value that declares a function. -/
structure IsFunction (v : Json) : Prop where
  name : ∃ name, HasName v name
  inputs : IsParameterList (v.get? "inputs")
  outputs : IsParameterList (v.get? "outputs")
  mutability : ∀ word, v.text? "stateMutability" = some word →
    word ∈ ["pure", "view", "nonpayable", "payable"]

/-- A value and the function that it declares, with the fields as given. -/
structure DescribesFunction (v : Json) (f : ContractFunction) : Prop where
  name : HasName v f.name
  inputs : DescribesList (v.get? "inputs") f.inputs
  outputs : DescribesList (v.get? "outputs") f.outputs
  mutability : GivesMutability v f.mutability

/-- The first fault of a value that should declare a function. -/
inductive FunctionFault (v : Json) : AbiFault → Prop where
  | unnamed (h : ∀ name, ¬ HasName v name) : FunctionFault v .unnamedFunction
  | inputs {name : String} {fault : AbiFault} (named : HasName v name)
      (h : ListFault "inputs" (v.get? "inputs") fault) : FunctionFault v fault
  | outputs {name : String} {fault : AbiFault} (named : HasName v name)
      (inputs : IsParameterList (v.get? "inputs"))
      (h : ListFault "outputs" (v.get? "outputs") fault) : FunctionFault v fault
  | mutability {name word : String} (named : HasName v name)
      (inputs : IsParameterList (v.get? "inputs")) (outputs : IsParameterList (v.get? "outputs"))
      (stated : v.text? "stateMutability" = some word) (unknown : ∀ m : Mutability, word ≠ m.text) :
      FunctionFault v (.unknownMutability word name)

theorem exists_describesList_iff {v : Json} {field : String} :
    (∃ ps, DescribesList (v.get? field) ps) ↔ IsParameterList (v.get? field) := by
  simp only [← (readsParameterList v field).ok, (readsParameterList v field).fine]

theorem mem_mutabilityWords_iff {word : String} :
    word ∈ ["pure", "view", "nonpayable", "payable"] ↔ ∃ m : Mutability, word = m.text := by
  constructor
  · intro h
    simp only [List.mem_cons, List.not_mem_nil, or_false] at h
    rcases h with rfl | rfl | rfl | rfl
    · exact ⟨.pure, rfl⟩
    · exact ⟨.view, rfl⟩
    · exact ⟨.nonpayable, rfl⟩
    · exact ⟨.payable, rfl⟩
  · rintro ⟨m, rfl⟩
    cases m <;> simp [Mutability.text]

theorem exists_givesMutability_iff {v : Json} :
    (∃ m, GivesMutability v m) ↔ ∀ word, v.text? "stateMutability" = some word →
      word ∈ ["pure", "view", "nonpayable", "payable"] := by
  constructor
  · rintro ⟨m, hm⟩ word hword
    exact mem_mutabilityWords_iff.mpr ⟨m, hm.stated word hword⟩
  · intro h
    cases hstated : v.text? "stateMutability" with
    | none => exact ⟨_, fun word hword => by simp [hstated] at hword, fun _ => rfl⟩
    | some word =>
      obtain ⟨m, hm⟩ := mem_mutabilityWords_iff.mp (h word hstated)
      exact ⟨m, fun w hw => Option.some.inj (hw.symm.trans hstated) ▸ hm,
        fun hnone => by simp [hstated] at hnone⟩

namespace ContractFunction

variable {v : Json}

theorem ofJson_eq_ok_iff {f : ContractFunction} :
    ContractFunction.ofJson v = .ok f ↔ DescribesFunction v f := by
  rw [ContractFunction.ofJson]
  simp only [bind_eq_ok_iff, nameOfJson_eq_ok_iff, (readsParameterList v _).ok,
    mutabilityOfJson_eq_ok_iff]
  constructor
  · rintro ⟨name, hname, inputs, hinputs, outputs, houtputs, m, hm, h⟩
    exact Except.ok.inj h ▸ ⟨hname, hinputs, houtputs, hm⟩
  · rintro ⟨hname, hinputs, houtputs, hm⟩
    exact ⟨_, hname, _, hinputs, _, houtputs, _, hm, rfl⟩

theorem exists_describes_iff : (∃ f, DescribesFunction v f) ↔ IsFunction v := by
  constructor
  · rintro ⟨f, hname, hinputs, houtputs, hm⟩
    exact ⟨⟨_, hname⟩, exists_describesList_iff.mp ⟨_, hinputs⟩,
      exists_describesList_iff.mp ⟨_, houtputs⟩, exists_givesMutability_iff.mp ⟨_, hm⟩⟩
  · rintro ⟨⟨name, hname⟩, hinputs, houtputs, hm⟩
    obtain ⟨inputs, hinputs⟩ := exists_describesList_iff.mpr hinputs
    obtain ⟨outputs, houtputs⟩ := exists_describesList_iff.mpr houtputs
    obtain ⟨mutability, hm⟩ := exists_givesMutability_iff.mpr hm
    exact ⟨{ name, inputs, outputs, mutability }, hname, hinputs, houtputs, hm⟩

theorem ofJson_eq_error_iff {fault : AbiFault} :
    ContractFunction.ofJson v = .error fault ↔ FunctionFault v fault := by
  rw [ContractFunction.ofJson]
  simp only [bind_eq_error_iff, nameOfJson_eq_ok_iff, nameOfJson_eq_error_iff,
    (readsParameterList v _).ok, (readsParameterList v _).error,
    mutabilityOfJson_eq_ok_iff, mutabilityOfJson_eq_error_iff]
  constructor
  · rintro (⟨hnone, rfl⟩ | ⟨name, hname, h | ⟨inputs, hinputs, h | ⟨outputs, houtputs, h⟩⟩⟩)
    · exact .unnamed hnone
    · exact .inputs hname h
    · exact .outputs hname (exists_describesList_iff.mp ⟨_, hinputs⟩) h
    · rcases h with ⟨word, hstated, hunknown, rfl⟩ | ⟨m, -, h⟩
      · exact .mutability hname (exists_describesList_iff.mp ⟨_, hinputs⟩)
          (exists_describesList_iff.mp ⟨_, houtputs⟩) hstated hunknown
      · exact absurd h nofun
  · rintro (hnone | ⟨hname, h⟩ | ⟨hname, hinputs, h⟩ |
      ⟨hname, hinputs, houtputs, hstated, hunknown⟩)
    · exact .inl ⟨hnone, rfl⟩
    · exact .inr ⟨_, hname, .inl h⟩
    · obtain ⟨inputs, hinputs⟩ := exists_describesList_iff.mpr hinputs
      exact .inr ⟨_, hname, .inr ⟨inputs, hinputs, .inl h⟩⟩
    · obtain ⟨inputs, hinputs⟩ := exists_describesList_iff.mpr hinputs
      obtain ⟨outputs, houtputs⟩ := exists_describesList_iff.mpr houtputs
      exact .inr ⟨_, hname, .inr ⟨inputs, hinputs, .inr ⟨outputs, houtputs,
        .inl ⟨_, hstated, hunknown, rfl⟩⟩⟩⟩

end ContractFunction

/-! ## Events -/

/-- A value that declares an event. -/
structure IsEvent (v : Json) : Prop where
  name : ∃ name, HasName v name
  inputs : IsParameterList (v.get? "inputs")

/-- A value and the event that it declares, with the fields as given. -/
structure DescribesEvent (v : Json) (e : ContractEvent) : Prop where
  name : HasName v e.name
  inputs : DescribesList (v.get? "inputs") e.inputs
  anonymous : e.anonymous = v.flag "anonymous"

/-- The first fault of a value that should declare an event. -/
inductive EventFault (v : Json) : AbiFault → Prop where
  | unnamed (h : ∀ name, ¬ HasName v name) : EventFault v .unnamedEvent
  | inputs {name : String} {fault : AbiFault} (named : HasName v name)
      (h : ListFault "inputs" (v.get? "inputs") fault) : EventFault v fault

namespace ContractEvent

variable {v : Json}

theorem ofJson_eq_ok_iff {e : ContractEvent} :
    ContractEvent.ofJson v = .ok e ↔ DescribesEvent v e := by
  rw [ContractEvent.ofJson]
  simp only [bind_eq_ok_iff, nameOfJson_eq_ok_iff, (readsParameterList v _).ok]
  constructor
  · rintro ⟨name, hname, inputs, hinputs, h⟩
    exact Except.ok.inj h ▸ ⟨hname, hinputs, rfl⟩
  · rintro ⟨hname, hinputs, hanonymous⟩
    refine ⟨_, hname, _, hinputs, ?_⟩
    rw [← hanonymous]
    rfl

theorem exists_describes_iff : (∃ e, DescribesEvent v e) ↔ IsEvent v := by
  constructor
  · rintro ⟨e, hname, hinputs, -⟩
    exact ⟨⟨_, hname⟩, exists_describesList_iff.mp ⟨_, hinputs⟩⟩
  · rintro ⟨⟨name, hname⟩, hinputs⟩
    obtain ⟨inputs, hinputs⟩ := exists_describesList_iff.mpr hinputs
    exact ⟨{ name, inputs, anonymous := v.flag "anonymous" }, hname, hinputs, rfl⟩

theorem ofJson_eq_error_iff {fault : AbiFault} :
    ContractEvent.ofJson v = .error fault ↔ EventFault v fault := by
  rw [ContractEvent.ofJson]
  simp only [bind_eq_error_iff, nameOfJson_eq_ok_iff, nameOfJson_eq_error_iff,
    (readsParameterList v _).ok, (readsParameterList v _).error]
  constructor
  · rintro (⟨hnone, rfl⟩ | ⟨name, hname, h | ⟨inputs, -, h⟩⟩)
    · exact .unnamed hnone
    · exact .inputs hname h
    · exact absurd h nofun
  · rintro (hnone | ⟨hname, h⟩)
    · exact .inl ⟨hnone, rfl⟩
    · exact .inr ⟨_, hname, .inl h⟩

end ContractEvent

/-! ## Entries -/

namespace Json

/-- An entry for a function: its type says so, or it has no text for a type. -/
def IsForFunction (v : Json) : Prop :=
  v.text? "type" = none ∨ v.text? "type" = some "function"

/-- An entry for an event. -/
def IsForEvent (v : Json) : Prop :=
  v.text? "type" = some "event"

/-- An entry of one of the two types that count. -/
def IsBound (v : Json) : Prop :=
  v.IsForFunction ∨ v.IsForEvent

instance : DecidablePred IsForFunction :=
  fun v => inferInstanceAs (Decidable (v.text? "type" = none ∨ v.text? "type" = some "function"))

instance : DecidablePred IsForEvent :=
  fun v => inferInstanceAs (Decidable (v.text? "type" = some "event"))

instance : DecidablePred IsBound :=
  fun v => inferInstanceAs (Decidable (v.IsForFunction ∨ v.IsForEvent))

theorem not_isForEvent_of_isForFunction {v : Json} (h : v.IsForFunction) : ¬ v.IsForEvent := by
  intro he
  rw [IsForEvent] at he
  rcases h with h | h
  · simp [h] at he
  · simp [h] at he

end Json

/-- An entry that is accepted: one for a function declares a function, one for an event an event. -/
structure IsEntry (v : Json) : Prop where
  function : v.IsForFunction → IsFunction v
  event : v.IsForEvent → IsEvent v

/-- An entry and what it declares. -/
inductive Declares (v : Json) : Entry → Prop where
  | function {f : ContractFunction} (kind : v.IsForFunction) (h : DescribesFunction v f) :
      Declares v (.function f)
  | event {e : ContractEvent} (kind : v.IsForEvent) (h : DescribesEvent v e) :
      Declares v (.event e)

/-- The first fault of an entry. -/
inductive EntryFault (v : Json) (fault : AbiFault) : Prop where
  | function (kind : v.IsForFunction) (h : FunctionFault v fault)
  | event (kind : v.IsForEvent) (h : EventFault v fault)

namespace Entry

variable {v : Json}

theorem ofJson_of_function (h : v.IsForFunction) :
    Entry.ofJson v = (ContractFunction.ofJson v).map fun f => some (.function f) := by
  have hword : (v.text? "type").getD "function" = "function" := by
    rcases h with h | h
    · rw [h]; rfl
    · rw [h]; rfl
  rw [Entry.ofJson, hword]
  rfl

theorem ofJson_of_event (h : v.IsForEvent) :
    Entry.ofJson v = (ContractEvent.ofJson v).map fun e => some (.event e) := by
  rw [Entry.ofJson, show v.text? "type" = some "event" from h]
  rfl

theorem ofJson_of_not_bound (h : ¬ v.IsBound) : Entry.ofJson v = .ok none := by
  cases hword : v.text? "type" with
  | none => exact absurd (.inl (.inl hword)) h
  | some word =>
    rw [Entry.ofJson, hword, Option.getD_some]
    split
    · exact absurd (.inl (.inr hword)) h
    · exact absurd (.inr hword) h
    · rfl

theorem ofJson_eq_ok_iff {r : Option Entry} :
    Entry.ofJson v = .ok r ↔
      (∃ entry, Declares v entry ∧ r = some entry) ∨ ¬ v.IsBound ∧ r = none := by
  by_cases hf : v.IsForFunction
  · rw [ofJson_of_function hf, map_eq_ok_iff]
    simp only [ContractFunction.ofJson_eq_ok_iff]
    constructor
    · rintro ⟨f, h, rfl⟩
      exact .inl ⟨_, .function hf h, rfl⟩
    · rintro (⟨-, ⟨-, h⟩ | ⟨he, -⟩, rfl⟩ | ⟨hn, -⟩)
      · exact ⟨_, h, rfl⟩
      · exact absurd he (Json.not_isForEvent_of_isForFunction hf)
      · exact absurd (.inl hf) hn
  · by_cases he : v.IsForEvent
    · rw [ofJson_of_event he, map_eq_ok_iff]
      simp only [ContractEvent.ofJson_eq_ok_iff]
      constructor
      · rintro ⟨e, h, rfl⟩
        exact .inl ⟨_, .event he h, rfl⟩
      · rintro (⟨-, ⟨hf', -⟩ | ⟨-, h⟩, rfl⟩ | ⟨hn, -⟩)
        · exact absurd hf' hf
        · exact ⟨_, h, rfl⟩
        · exact absurd (.inr he) hn
    · have hn : ¬ v.IsBound := fun h => h.elim hf he
      rw [ofJson_of_not_bound hn, Except.ok.injEq]
      constructor
      · exact fun h => .inr ⟨hn, h.symm⟩
      · rintro (⟨-, ⟨hf', -⟩ | ⟨he', -⟩, rfl⟩ | ⟨-, rfl⟩)
        · exact absurd hf' hf
        · exact absurd he' he
        · rfl

theorem ofJson_eq_error_iff {fault : AbiFault} :
    Entry.ofJson v = .error fault ↔ EntryFault v fault := by
  by_cases hf : v.IsForFunction
  · rw [ofJson_of_function hf, map_eq_error_iff, ContractFunction.ofJson_eq_error_iff]
    refine ⟨.function hf, ?_⟩
    rintro (⟨-, h⟩ | ⟨he, -⟩)
    · exact h
    · exact absurd he (Json.not_isForEvent_of_isForFunction hf)
  · by_cases he : v.IsForEvent
    · rw [ofJson_of_event he, map_eq_error_iff, ContractEvent.ofJson_eq_error_iff]
      refine ⟨.event he, ?_⟩
      rintro (⟨hf', -⟩ | ⟨-, h⟩)
      · exact absurd hf' hf
      · exact h
    · rw [ofJson_of_not_bound fun h => h.elim hf he]
      refine ⟨nofun, ?_⟩
      rintro (⟨hf', -⟩ | ⟨he', -⟩)
      · exact absurd hf' hf
      · exact absurd he' he

theorem exists_ofJson_iff : (∃ r, Entry.ofJson v = .ok r) ↔ IsEntry v := by
  simp only [ofJson_eq_ok_iff]
  constructor
  · rintro ⟨r, ⟨-, ⟨hf, h⟩ | ⟨he, h⟩, rfl⟩ | ⟨hn, -⟩⟩
    · exact ⟨fun _ => ContractFunction.exists_describes_iff.mp ⟨_, h⟩,
        fun he => absurd he (Json.not_isForEvent_of_isForFunction hf)⟩
    · exact ⟨fun hf => absurd he (Json.not_isForEvent_of_isForFunction hf),
        fun _ => ContractEvent.exists_describes_iff.mp ⟨_, h⟩⟩
    · exact ⟨fun hf => absurd (.inl hf) hn, fun he => absurd (.inr he) hn⟩
  · intro h
    by_cases hf : v.IsForFunction
    · obtain ⟨f, hd⟩ := ContractFunction.exists_describes_iff.mpr (h.function hf)
      exact ⟨_, .inl ⟨_, .function hf hd, rfl⟩⟩
    · by_cases he : v.IsForEvent
      · obtain ⟨e, hd⟩ := ContractEvent.exists_describes_iff.mpr (h.event he)
        exact ⟨_, .inl ⟨_, .event he hd, rfl⟩⟩
      · exact ⟨none, .inr ⟨fun h => h.elim hf he, rfl⟩⟩

end Entry

end AbiBindings
