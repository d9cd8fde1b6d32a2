import AbiBindings.Proofs.Struct.Coverage
import AbiBindings.Proofs.Struct.Distinct

/-! # Reading a contract again

Registration leaves a registry alone as soon as all its parameters have a definition
(`registerAll_of_resolves`). After a contract is read they do, and whatever is reserved or read
later takes no look-up away. So reading the contract again, or any part of it, changes nothing,
neither at once nor later (`rereading_changes_nothing`). -/

namespace AbiBindings
namespace StructRegistry
set_option autoImplicit false

/-! ## Registration without effect -/

theorem not_lacks_of_resolves {r : StructRegistry} {p : Parameter} (h : r.Resolves p) :
    r.lacks p ≠ true := by
  intro hlacks
  obtain ⟨ht, hc, hnone⟩ := lacks_iff.mp hlacks
  obtain ⟨d, hd⟩ := h ht hc
  rw [hnone] at hd
  contradiction

theorem registerAll_of_resolves {r : StructRegistry} {ps : List Parameter}
    (h : ∀ p ∈ ps, r.Resolves p) : r.registerAll ps = r := by
  induction ps with
  | nil => rfl
  | cons p ps ih =>
    have hp : r.register p = r := register_of_not_lacks (not_lacks_of_resolves (h p (by simp)))
    have hps : r.registerAll ps = r := ih fun q hq => h q (List.mem_cons_of_mem p hq)
    rw [registerAll, hp, hps]

/-! ## Parts of a contract -/

/-- Every function and every event of the part occurs in the contract. -/
def IsPart (part c : Contract) : Prop :=
  part.functions ⊆ c.functions ∧ part.events ⊆ c.events

theorem visited_subset {part c : Contract} (h : IsPart part c) :
    part.functions.flatMap structParameters ++ part.events.flatMap eventParameters ⊆
      c.functions.flatMap structParameters ++ c.events.flatMap eventParameters := by
  intro p hp
  rcases List.mem_append.mp hp with hp | hp
  · obtain ⟨f, hf, hpf⟩ := List.mem_flatMap.mp hp
    exact List.mem_append_left _ (List.mem_flatMap.mpr ⟨f, h.1 hf, hpf⟩)
  · obtain ⟨e, he, hpe⟩ := List.mem_flatMap.mp hp
    exact List.mem_append_right _ (List.mem_flatMap.mpr ⟨e, h.2 he, hpe⟩)

theorem extract_of_extends {r s : StructRegistry} {part c : Contract}
    (hs : Extends (r.extract c) s) (h : IsPart part c) : s.extract part = s := by
  have hread := (registerAll_settles
    (c.functions.flatMap structParameters ++ c.events.flatMap eventParameters) r).1
  apply registerAll_of_resolves
  intro p hp
  exact (hread p (visited_subset h hp)).mono hs

/-! ## Look-ups in a registry that grows -/

theorem find?_of_extends {r s : StructRegistry} (hs : Extends r s) {p : Parameter}
    {d : StructDefinition} (hd : r.find? p = some d) : ∃ e, s.find? p = some e := by
  have ht : p.isTuple = true := by
    by_contra ht
    simp [find?, ht] at hd
  obtain ⟨hmem, hfit⟩ := find?_eq_some hd
  exact Option.isSome_iff_exists.mp
    ((isSome_find? ht).mpr ⟨d, hs.definitions_subset hmem, hfit⟩)

/-- Once a contract is read, and whatever is reserved and read after it, reading any part of it
leaves definitions, names and counter as they are; and a parameter that some definition fits has a
definition ever after, whose canonical types are those of its components one by one. -/
theorem rereading_changes_nothing (before after : List Call) (c : Contract) :
    (∀ part, IsPart part c →
      (run (before ++ .extract c :: after)).extract part = run (before ++ .extract c :: after)) ∧
    ∀ p d, (run before).find? p = some d →
      ∃ e ∈ (run (before ++ after)).definitions, (run (before ++ after)).find? p = some e ∧
        e.parameters.map Parameter.canonicalType = p.components.map Parameter.canonicalType ∧
        e.parameters.map Parameter.canonicalType = d.parameters.map Parameter.canonicalType := by
  constructor
  · intro part hpart
    have hread : run (before ++ [.extract c]) = (run before).extract c := run_concat _ _
    have hlater : Extends ((run before).extract c) (run (before ++ .extract c :: after)) := by
      rw [List.append_cons, ← hread]
      exact extends_run_append _ after
    exact extract_of_extends hlater hpart
  · intro p d hd
    obtain ⟨e, he⟩ := find?_of_extends (extends_run_append before after) hd
    obtain ⟨hmem, hfit⟩ := find?_eq_some he
    have htypes := hfit.map_canonicalType
    exact ⟨e, hmem, he, htypes, htypes.trans (find?_eq_some hd).2.map_canonicalType.symm⟩

/-- A struct without names of components changes its class when a later contract declares a struct
of its own name, and keeps its types. -/
theorem rereading_of_vault :
    let struct (name field : String) : Parameter :=
      { typeText := "tuple[]", internalType := some ("struct " ++ name ++ "[]")
        components := [{ name := field, typeText := "uint" }] }
    let moved (p : Parameter) : Entry :=
      .event { name := "Moved", inputs := [p], anonymous := false }
    let vault : Contract := { entries := [moved (struct "Key" "fee"), moved (struct "Lock" "")] }
    let part : Contract := { entries := [moved (struct "Lock" "")] }
    let before : List Call := [.reserve "Vault", .extract vault]
    let after : List Call := [.extract { entries := [moved (struct "Lock" "tick")] }]
    let nameless := struct "Lock" ""
    IsPart part vault ∧ (run (before ++ after)).extract part = run (before ++ after) ∧
      (run before).classFor? nameless = some "Key" ∧
      (run (before ++ after)).classFor? nameless = some "Lock" ∧
      ∃ e, (run (before ++ after)).find? nameless = some e ∧
        e.parameters.map Parameter.canonicalType = ["uint256"] := by
  intro struct moved vault part before after nameless
  have hpart : IsPart part vault := by
    refine ⟨List.Subset.refl _, fun e he => ?_⟩
    rw [List.mem_singleton.mp he]
    exact List.mem_cons_of_mem _ List.mem_cons_self
  have hclass : (run before).classFor? nameless = some "Key" := by decide +kernel
  have htypes : nameless.components.map Parameter.canonicalType = ["uint256"] := by decide +kernel
  obtain ⟨d, hd, -⟩ := Option.map_eq_some_iff.mp hclass
  obtain ⟨hagain, -⟩ := rereading_changes_nothing [.reserve "Vault"] after vault
  obtain ⟨-, hkept⟩ := rereading_changes_nothing before after vault
  obtain ⟨e, -, he, hsame, -⟩ := hkept nameless d hd
  exact ⟨hpart, hagain part hpart, hclass, by decide +kernel, e, he, hsame.trans htypes⟩

end StructRegistry
end AbiBindings
