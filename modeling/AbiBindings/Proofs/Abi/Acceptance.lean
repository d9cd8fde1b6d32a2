import AbiBindings.Error
import AbiBindings.Proofs.Abi.Entries
import AbiBindings.Proofs.Abi.Levels

/-! # Which interfaces are accepted

An interface is an array of accepted entries (`IsInterface`). Reading accepts the interfaces and
nothing else, gives what their entries declare, and of several faults reports that of the first
entry that has one.

Every contract whose functions and events have names is declared by some interface, the one that
`Contract.declaration` writes. -/

namespace AbiBindings
set_option autoImplicit false

/-! ## Interfaces -/

/-- An array whose entries are all accepted. -/
def IsInterface (v : Json) : Prop :=
  ∃ items, v = .array items ∧ ∀ item ∈ items, IsEntry item

/-- What is wrong with a value that is no interface. -/
inductive InterfaceFault : Json → AbiFault → Prop where
  | notAnArray {v : Json} (h : ∀ items, v ≠ .array items) : InterfaceFault v .notAnArray
  | entry {items : List Json} {fault : AbiFault}
      (first : FirstFault IsEntry EntryFault items fault) : InterfaceFault (.array items) fault

namespace Contract

theorem ofJson_of_not_array {v : Json} (h : ∀ items, v ≠ .array items) :
    Contract.ofJson v = .error .notAnArray := by
  cases v with
  | array items => exact absurd rfl (h items)
  | _ => rfl

/-- The entries that count, read in order, are those of the contract. -/
theorem forall₂_declares_iff {items : List Json} {entries : List Entry} :
    (∃ rs, List.Forall₂ (fun item r => Entry.ofJson item = .ok r) items rs ∧
      rs.filterMap id = entries) ↔
      List.Forall₂ Declares (items.filter Json.IsBound) entries := by
  induction items generalizing entries with
  | nil => simp [eq_comm]
  | cons item items ih =>
    simp only [List.forall₂_cons_left_iff, Entry.ofJson_eq_ok_iff] at ih ⊢
    by_cases hbound : item.IsBound
    · rw [List.filter_cons_of_pos (by simpa using hbound), List.forall₂_cons_left_iff]
      constructor
      · rintro ⟨-, ⟨r, rs, ⟨entry, hd, rfl⟩ | ⟨hn, -⟩, hrest, rfl⟩, rfl⟩
        · exact ⟨entry, _, hd, ih.mp ⟨rs, hrest, rfl⟩, by simp⟩
        · exact absurd hbound hn
      · rintro ⟨entry, rest, hd, hrest, rfl⟩
        obtain ⟨rs, hrs, rfl⟩ := ih.mpr hrest
        exact ⟨some entry :: rs, ⟨_, rs, .inl ⟨entry, hd, rfl⟩, hrs, rfl⟩, by simp⟩
    · rw [List.filter_cons_of_neg (by simpa using hbound), ← ih]
      constructor
      · rintro ⟨-, ⟨r, rs, ⟨entry, hd, -⟩ | ⟨-, rfl⟩, hrest, rfl⟩, rfl⟩
        · cases hd with
          | function kind => exact absurd (.inl kind) hbound
          | event kind => exact absurd (.inr kind) hbound
        · exact ⟨rs, hrest, by simp⟩
      · rintro ⟨rs, hrs, rfl⟩
        exact ⟨none :: rs, ⟨none, rs, .inr ⟨hbound, rfl⟩, hrs, rfl⟩, by simp⟩

theorem ofJson_eq_ok_iff {v : Json} {c : Contract} :
    Contract.ofJson v = .ok c ↔
      ∃ items, v = .array items ∧ List.Forall₂ Declares (items.filter Json.IsBound) c.entries := by
  by_cases h : ∃ items, v = .array items
  · obtain ⟨items, rfl⟩ := h
    rw [Contract.ofJson, bind_eq_ok_iff]
    simp only [mapM_eq_ok_iff, Json.array.injEq, exists_eq_left', ← forall₂_declares_iff]
    refine exists_congr fun rs => and_congr_right fun _ => ?_
    constructor
    · exact fun h => congrArg Contract.entries (Except.ok.inj h)
    · exact fun h => congrArg (fun entries => Except.ok (Contract.mk entries)) h
  · have hnone : ∀ items, v ≠ .array items := fun items hv => h ⟨items, hv⟩
    rw [ofJson_of_not_array hnone]
    exact ⟨nofun, fun ⟨items, hv, _⟩ => absurd hv (hnone items)⟩

theorem ofJson_eq_error_iff {v : Json} {fault : AbiFault} :
    Contract.ofJson v = .error fault ↔ InterfaceFault v fault := by
  by_cases h : ∃ items, v = .array items
  · obtain ⟨items, rfl⟩ := h
    rw [Contract.ofJson, bind_eq_error_iff, mapM_eq_error_iff]
    simp only [Entry.exists_ofJson_iff, Entry.ofJson_eq_error_iff]
    constructor
    · rintro (⟨before, item, after, rfl, hbefore, hitem⟩ | ⟨rs, -, h⟩)
      · exact .entry (.intro hbefore hitem)
      · exact absurd h nofun
    · rintro (hn | ⟨hbefore, hitem⟩)
      · exact absurd rfl (hn items)
      · exact .inl ⟨_, _, _, rfl, hbefore, hitem⟩
  · have hnone : ∀ items, v ≠ .array items := fun items hv => h ⟨items, hv⟩
    rw [ofJson_of_not_array hnone, Except.error.injEq]
    constructor
    · exact fun h => h ▸ .notAnArray hnone
    · rintro (- | -)
      · rfl
      · exact absurd rfl (hnone _)

theorem exists_ofJson_iff {v : Json} : (∃ c, Contract.ofJson v = .ok c) ↔ IsInterface v := by
  constructor
  · rintro ⟨c, h⟩
    obtain ⟨items, rfl, -⟩ := ofJson_eq_ok_iff.mp h
    obtain ⟨rs, hrs, -⟩ := bind_eq_ok_iff.mp h
    have hitems := exists_mapM_iff.mp ⟨rs, hrs⟩
    exact ⟨items, rfl, fun item hitem => Entry.exists_ofJson_iff.mp (hitems item hitem)⟩
  · rintro ⟨items, rfl, hitems⟩
    obtain ⟨rs, hrs⟩ := exists_mapM_iff.mpr fun item hitem =>
      Entry.exists_ofJson_iff.mpr (hitems item hitem)
    exact ⟨_, bind_eq_ok_iff.mpr ⟨rs, hrs, rfl⟩⟩

/-- Entries that do not count can be left out. -/
theorem ofJson_of_not_bound {before after : List Json} {other : Json} (h : ¬ other.IsBound) :
    Contract.ofJson (.array (before ++ other :: after)) =
      Contract.ofJson (.array (before ++ after)) := by
  rw [Contract.ofJson, Contract.ofJson, List.mapM_append, List.mapM_append, List.mapM_cons,
    Entry.ofJson_of_not_bound h]
  cases before.mapM Entry.ofJson with
  | error fault => rfl
  | ok rs =>
    cases after.mapM Entry.ofJson with
    | error fault => rfl
    | ok ss => simp [bind, Except.bind, pure, Except.pure]

end Contract

/-! ## Every contract is declared by an interface -/

mutual

/-- The declaration of a parameter in an interface. -/
def Parameter.declaration : Parameter → Json
  | ⟨name, typeText, internalType, components, indexed⟩ =>
    .object [
      ("name", .string name),
      ("type", .string typeText),
      ("internalType", (internalType.map Json.string).getD .null),
      ("components", .array (declarations components)),
      ("indexed", .bool indexed)]

/-- The declarations of a list of parameters. -/
def declarations : List Parameter → List Json
  | [] => []
  | p :: rest => p.declaration :: declarations rest

end

/-- The declaration of an entry. -/
def Entry.declaration : Entry → Json
  | function f =>
    .object [
      ("type", .string "function"),
      ("name", .string f.name),
      ("inputs", .array (declarations f.inputs)),
      ("outputs", .array (declarations f.outputs)),
      ("stateMutability", .string f.mutability.text)]
  | event e =>
    .object [
      ("type", .string "event"),
      ("name", .string e.name),
      ("inputs", .array (declarations e.inputs)),
      ("anonymous", .bool e.anonymous)]

/-- The interface that declares a contract. -/
def Contract.declaration (c : Contract) : Json :=
  .array (c.entries.map Entry.declaration)

/-- The name of what an entry declares. -/
def Entry.name : Entry → String
  | function f => f.name
  | event e => e.name

theorem forall₂_declarations {ps : List Parameter} (h : ∀ p ∈ ps, Describes p.declaration p) :
    List.Forall₂ Describes (declarations ps) ps := by
  induction ps with
  | nil => exact .nil
  | cons p rest ih =>
    obtain ⟨hp, hrest⟩ := List.forall_mem_cons.mp h
    exact .cons hp (ih hrest)

theorem describes_declaration (p : Parameter) : Describes p.declaration p := by
  induction p using Parameter.induction with
  | step p ih =>
    obtain ⟨name, typeText, internalType, components, indexed⟩ := p
    refine .intro ?_ ?_ ?_ ?_ (.array (declarations components)) (forall₂_declarations ih)
    · rfl
    · rfl
    · cases internalType <;> rfl
    · cases indexed <;> rfl

theorem describesList_declarations (ps : List Parameter) :
    DescribesList (some (.array (declarations ps))) ps :=
  ⟨_, .array _, forall₂_declarations fun p _ => describes_declaration p⟩

theorem Entry.declares_declaration {entry : Entry} (h : entry.name ≠ "") :
    Declares entry.declaration entry := by
  cases entry with
  | function f =>
    refine .function (.inr rfl) ⟨⟨rfl, h⟩, describesList_declarations _,
      describesList_declarations _, fun word hword => ?_, nofun⟩
    exact (Option.some.inj hword).symm
  | event e =>
    exact .event rfl ⟨⟨rfl, h⟩, describesList_declarations _, rfl⟩

theorem Entry.isBound_declaration (entry : Entry) : entry.declaration.IsBound := by
  cases entry with
  | function f => exact .inl (.inr rfl)
  | event e => exact .inr rfl

theorem Declares.name_ne_empty {v : Json} {entry : Entry} (h : Declares v entry) :
    entry.name ≠ "" := by
  cases h with
  | function _ h => exact h.name.2
  | event _ h => exact h.name.2

theorem Contract.exists_declaration_iff {c : Contract} :
    (∃ items, Contract.ofJson (.array items) = .ok c) ↔ ∀ entry ∈ c.entries, entry.name ≠ "" := by
  constructor
  · rintro ⟨items, h⟩ entry hentry
    obtain ⟨_, _, hdeclares⟩ := ofJson_eq_ok_iff.mp h
    obtain ⟨v, hd⟩ := exists_forall₂_iff.mp ⟨_, hdeclares.flip⟩ entry hentry
    exact Declares.name_ne_empty hd
  · intro h
    refine ⟨c.entries.map Entry.declaration, ofJson_eq_ok_iff.mpr ⟨_, rfl, ?_⟩⟩
    have hall : (c.entries.map Entry.declaration).filter Json.IsBound =
        c.entries.map Entry.declaration := by
      refine List.filter_eq_self.mpr fun v hv => ?_
      obtain ⟨entry, -, rfl⟩ := List.mem_map.mp hv
      simpa using entry.isBound_declaration
    rw [hall, List.forall₂_map_left_iff]
    exact List.forall₂_same.mpr fun entry hentry => Entry.declares_declaration (h entry hentry)

/-! ## The statement -/

theorem Contract.ofText_eq_error_iff {text : String} {v : Json} (h : Json.parse text = .ok v)
    {e : Error} : Contract.ofText text = .error e ↔
      ∃ fault, Contract.ofJson v = .error fault ∧ e = .abi fault := by
  rw [Contract.ofText, h, ← mapError_eq_error_iff]
  rfl

/-- Reading succeeds on interfaces and on nothing else. What it gives are the entries that count, in
order and with their fields as given; what it fails with is an error about the interface, for the
first fault of the first entry that has one. Entries that do not count make no difference. Every
contract whose functions and events have names is read from some interface, and no other is. -/
theorem interfaces_are_read_by_their_grammar :
    (∀ v : Json, (∃ c, Contract.ofJson v = .ok c) ↔ IsInterface v) ∧
    (∀ (v : Json) (c : Contract), Contract.ofJson v = .ok c ↔
      ∃ items, v = .array items ∧ List.Forall₂ Declares (items.filter Json.IsBound) c.entries) ∧
    (∀ (v : Json) (fault : AbiFault), Contract.ofJson v = .error fault ↔ InterfaceFault v fault) ∧
    (∀ (text : String) (v : Json), Json.parse text = .ok v →
      ∀ e, Contract.ofText text = .error e ↔ ∃ fault, InterfaceFault v fault ∧ e = .abi fault) ∧
    (∀ (before after : List Json) (other : Json), ¬ other.IsBound →
      Contract.ofJson (.array (before ++ other :: after)) =
        Contract.ofJson (.array (before ++ after))) ∧
    ∀ c : Contract, (∃ items, Contract.ofJson (.array items) = .ok c) ↔
      ∀ entry ∈ c.entries, entry.name ≠ "" := by
  refine ⟨fun v => Contract.exists_ofJson_iff, fun v c => Contract.ofJson_eq_ok_iff,
    fun v fault => Contract.ofJson_eq_error_iff, fun text v hv e => ?_,
    fun before after other h => Contract.ofJson_of_not_bound h,
    fun c => Contract.exists_declaration_iff⟩
  rw [Contract.ofText_eq_error_iff hv]
  simp only [Contract.ofJson_eq_error_iff]

end AbiBindings
