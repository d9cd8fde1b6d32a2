import AbiBindings.Abi.Reading
import AbiBindings.Proofs.Results

/-! # The grammar of parameters

Which JSON values declare parameters is said here without reading them: what is well formed
(`IsParameter`, `IsParameterList`), what a value describes (`Describes`), and which fault comes
first in a value that is not well formed (`ParameterFault`). A member of the wrong kind counts as a
missing one; only a list must be a list, and only a type must be there.

Reading does what the grammar says (`readsParameter`): values are followed into their components,
which are smaller, and the three statements about a value need the three about its components. -/

namespace AbiBindings
set_option autoImplicit false

/-! ## Lists of declarations -/

/-- The items that a member lists: none where it is missing or null, otherwise those of an array. -/
inductive ListsItems : Option Json → List Json → Prop where
  | absent : ListsItems none []
  | null : ListsItems (some .null) []
  | array (items : List Json) : ListsItems (some (.array items)) items

/-- The fault of the first item that is not fine. -/
inductive FirstFault (Fine : Json → Prop) (Fault : Json → AbiFault → Prop) :
    List Json → AbiFault → Prop where
  | intro {before after : List Json} {item : Json} {fault : AbiFault}
      (fine : ∀ b ∈ before, Fine b) (here : Fault item fault) :
      FirstFault Fine Fault (before ++ item :: after) fault

theorem listMember_eq_ok_iff {v : Json} {field : String} {items : List Json} :
    listMember v field = .ok items ↔ ListsItems (v.get? field) items := by
  unfold listMember
  split
  · rename_i h
    rw [h]
    exact ⟨fun h => Except.ok.inj h ▸ .absent, fun h => by cases h; rfl⟩
  · rename_i h
    rw [h]
    exact ⟨fun h => Except.ok.inj h ▸ .null, fun h => by cases h; rfl⟩
  · rename_i found h
    rw [h]
    exact ⟨fun h => Except.ok.inj h ▸ .array found, fun h => by cases h; rfl⟩
  · rename_i found hnull harray h
    rw [h]
    refine ⟨nofun, fun h => ?_⟩
    cases h with
    | null => exact absurd rfl hnull
    | array items => exact absurd rfl (harray items)

theorem listMember_eq_error_iff {v : Json} {field : String} {fault : AbiFault} :
    listMember v field = .error fault ↔
      (∀ items, ¬ ListsItems (v.get? field) items) ∧ fault = .listExpected field := by
  simp only [← listMember_eq_ok_iff]
  refine eq_error_iff_of_forall fun found h => ?_
  unfold listMember at h
  split at h
  · simp at h
  · simp at h
  · simp at h
  · exact (Except.error.inj h).symm

/-! ## Parameters -/

/-- A value that declares a parameter: its type is a text, and its components, if any are listed,
declare parameters. -/
inductive IsParameter : Json → Prop where
  | intro {v : Json} {typeText : String} {items : List Json} (type : v.text? "type" = some typeText)
      (listed : ListsItems (v.get? "components") items)
      (inside : ∀ item ∈ items, IsParameter item) : IsParameter v

/-- A member that lists parameters. -/
def IsParameterList (member : Option Json) : Prop :=
  ∃ items, ListsItems member items ∧ ∀ item ∈ items, IsParameter item

/-- A value and the parameter that it declares, with the fields as given. -/
inductive Describes : Json → Parameter → Prop where
  | intro {v : Json} {p : Parameter} {items : List Json} (type : v.text? "type" = some p.typeText)
      (name : p.name = (v.text? "name").getD "")
      (internalType : p.internalType = v.text? "internalType")
      (indexed : p.indexed = v.flag "indexed") (listed : ListsItems (v.get? "components") items)
      (inside : List.Forall₂ Describes items p.components) : Describes v p

/-- A member and the parameters that it lists. -/
def DescribesList (member : Option Json) (ps : List Parameter) : Prop :=
  ∃ items, ListsItems member items ∧ List.Forall₂ Describes items ps

/-- The first fault of a value that should declare a parameter. -/
inductive ParameterFault : Json → AbiFault → Prop where
  | untyped {v : Json} (h : v.text? "type" = none) : ParameterFault v .untypedParameter
  | noList {v : Json} {typeText : String} (type : v.text? "type" = some typeText)
      (h : ∀ items, ¬ ListsItems (v.get? "components") items) :
      ParameterFault v (.listExpected "components")
  | component {v : Json} {typeText : String} {items : List Json} {fault : AbiFault}
      (type : v.text? "type" = some typeText) (listed : ListsItems (v.get? "components") items)
      (first : FirstFault IsParameter ParameterFault items fault) : ParameterFault v fault

/-- The first fault of a member that should list parameters. -/
inductive ListFault (field : String) (member : Option Json) : AbiFault → Prop where
  | noList (h : ∀ items, ¬ ListsItems member items) : ListFault field member (.listExpected field)
  | item {items : List Json} {fault : AbiFault} (listed : ListsItems member items)
      (first : FirstFault IsParameter ParameterFault items fault) : ListFault field member fault

theorem parameterFault_iff {v : Json} {typeText : String} (type : v.text? "type" = some typeText)
    {fault : AbiFault} :
    ParameterFault v fault ↔ ListFault "components" (v.get? "components") fault := by
  constructor
  · rintro (hnone | ⟨-, h⟩ | ⟨-, listed, first⟩)
    · simp [type] at hnone
    · exact .noList h
    · exact .item listed first
  · rintro (h | ⟨listed, first⟩)
    · exact .noList type h
    · exact .component type listed first

/-- Reading a value does what the grammar says of it. -/
structure ReadsParameter (v : Json) : Prop where
  ok : ∀ p, Parameter.ofJson v = .ok p ↔ Describes v p
  error : ∀ fault, Parameter.ofJson v = .error fault ↔ ParameterFault v fault
  fine : (∃ p, Parameter.ofJson v = .ok p) ↔ IsParameter v

/-! ## Reading a list -/

/-- Reading a member does what the grammar says of it as a list. -/
structure ReadsParameterList (v : Json) (field : String) : Prop where
  ok : ∀ ps, parametersOfJson v field = .ok ps ↔ DescribesList (v.get? field) ps
  error : ∀ fault, parametersOfJson v field = .error fault ↔
    ListFault field (v.get? field) fault
  fine : (∃ ps, parametersOfJson v field = .ok ps) ↔ IsParameterList (v.get? field)

theorem forall₂_describes_iff {items : List Json} (h : ∀ item ∈ items, ReadsParameter item)
    (ps : List Parameter) :
    List.Forall₂ (fun item p => Parameter.ofJson item = .ok p) items ps ↔
      List.Forall₂ Describes items ps := by
  induction items generalizing ps with
  | nil => simp
  | cons item items ih =>
    obtain ⟨hitem, hitems⟩ := List.forall_mem_cons.mp h
    simp only [List.forall₂_cons_left_iff, hitem.ok, ih hitems]

theorem firstFault_iff {items : List Json} (h : ∀ item ∈ items, ReadsParameter item)
    (fault : AbiFault) :
    items.mapM Parameter.ofJson = .error fault ↔
      FirstFault IsParameter ParameterFault items fault := by
  rw [mapM_eq_error_iff]
  constructor
  · rintro ⟨before, item, after, rfl, hbefore, hitem⟩
    refine .intro (fun b hb => ?_) (((h item (by simp)).error fault).mp hitem)
    exact (h b (List.mem_append_left _ hb)).fine.mp (hbefore b hb)
  · rintro ⟨hbefore, hitem⟩
    refine ⟨_, _, _, rfl, fun b hb => ?_, ((h _ (by simp)).error fault).mpr hitem⟩
    exact (h b (List.mem_append_left _ hb)).fine.mpr (hbefore b hb)

theorem readsParameterList_of {v : Json} {field : String}
    (h : ∀ items, ListsItems (v.get? field) items → ∀ item ∈ items, ReadsParameter item) :
    ReadsParameterList v field where
  ok ps := by
    rw [parametersOfJson, bind_eq_ok_iff]
    refine exists_congr fun items => ?_
    rw [listMember_eq_ok_iff, mapM_eq_ok_iff]
    exact and_congr_right fun hlisted => forall₂_describes_iff (h items hlisted) ps
  error fault := by
    rw [parametersOfJson, bind_eq_error_iff, listMember_eq_error_iff]
    constructor
    · rintro (⟨hnone, rfl⟩ | ⟨items, hlisted, hfault⟩)
      · exact .noList hnone
      · rw [listMember_eq_ok_iff] at hlisted
        exact .item hlisted ((firstFault_iff (h items hlisted) fault).mp hfault)
    · rintro (hnone | ⟨hlisted, hfirst⟩)
      · exact .inl ⟨hnone, rfl⟩
      · exact .inr ⟨_, listMember_eq_ok_iff.mpr hlisted,
          (firstFault_iff (h _ hlisted) fault).mpr hfirst⟩
  fine := by
    have hitems {items : List Json} (hlisted : ListsItems (v.get? field) items) :
        (∃ ps, items.mapM Parameter.ofJson = .ok ps) ↔ ∀ item ∈ items, IsParameter item := by
      rw [exists_mapM_iff]
      exact forall₂_congr fun item hitem => (h items hlisted item hitem).fine
    constructor
    · rintro ⟨ps, hps⟩
      obtain ⟨items, hlisted, hread⟩ := bind_eq_ok_iff.mp hps
      rw [listMember_eq_ok_iff] at hlisted
      exact ⟨items, hlisted, (hitems hlisted).mp ⟨ps, hread⟩⟩
    · rintro ⟨items, hlisted, hfine⟩
      obtain ⟨ps, hps⟩ := (hitems hlisted).mpr hfine
      exact ⟨ps, bind_eq_ok_iff.mpr ⟨items, listMember_eq_ok_iff.mpr hlisted, hps⟩⟩

/-! ## Reading a parameter -/

theorem readsParameter_of_components {v : Json} (h : ReadsParameterList v "components") :
    ReadsParameter v := by
  have heq := Parameter.ofJson_eq v
  cases htype : v.text? "type" with
  | none =>
    rw [htype] at heq
    refine ⟨fun p => ?_, fun fault => ?_, ?_⟩
    · rw [heq]
      refine ⟨nofun, fun hd => ?_⟩
      obtain ⟨type, -⟩ := hd
      simp [htype] at type
    · rw [heq]
      constructor
      · exact fun h => Except.error.inj h ▸ .untyped htype
      · intro hfault
        cases hfault with
        | untyped => rfl
        | noList type => simp [htype] at type
        | component type => simp [htype] at type
    · rw [heq]
      refine ⟨nofun, fun hp => ?_⟩
      obtain ⟨type, -⟩ := hp
      simp [htype] at type
  | some typeText =>
    rw [htype] at heq
    refine ⟨fun p => ?_, fun fault => ?_, ?_⟩
    · rw [heq, bind_eq_ok_iff]
      constructor
      · rintro ⟨components, hread, hp⟩
        obtain ⟨items, hlisted, hinside⟩ := (h.ok components).mp hread
        obtain rfl := Except.ok.inj hp
        exact .intro htype rfl rfl rfl hlisted hinside
      · rintro ⟨type, name, internalType, indexed, hlisted, hinside⟩
        refine ⟨p.components, (h.ok _).mpr ⟨_, hlisted, hinside⟩, ?_⟩
        have htext : typeText = p.typeText := Option.some.inj (htype.symm.trans type)
        rw [htext, ← name, ← internalType, ← indexed]
        cases p
        rfl
    · rw [heq, bind_eq_error_iff, h.error, parameterFault_iff htype]
      constructor
      · rintro (hfault | ⟨components, -, hfault⟩)
        · exact hfault
        · exact absurd hfault nofun
      · exact .inl
    · rw [heq]
      constructor
      · rintro ⟨p, hp⟩
        obtain ⟨components, hread, -⟩ := bind_eq_ok_iff.mp hp
        obtain ⟨items, hlisted, hinside⟩ := h.fine.mp ⟨components, hread⟩
        exact .intro htype hlisted hinside
      · rintro ⟨-, hlisted, hinside⟩
        obtain ⟨components, hread⟩ := h.fine.mpr ⟨_, hlisted, hinside⟩
        exact ⟨_, bind_eq_ok_iff.mpr ⟨components, hread, rfl⟩⟩

theorem readsParameter (v : Json) : ReadsParameter v := by
  induction hn : sizeOf v using Nat.strongRecOn generalizing v with
  | _ n ih =>
    refine readsParameter_of_components (readsParameterList_of fun items hlisted item hitem => ?_)
    have hlt := sizeOf_lt_of_listMember (listMember_eq_ok_iff.mpr hlisted) hitem
    exact ih _ (hn ▸ hlt) item rfl

theorem readsParameterList (v : Json) (field : String) : ReadsParameterList v field :=
  readsParameterList_of fun _ _ item _ => readsParameter item

end AbiBindings
