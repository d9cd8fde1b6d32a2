import AbiBindings.Proofs.Struct.Growth

/-! # Every struct has a definition

Registration stops at a struct that some definition fits, without a look at its components. Still
nothing is left out: the components that are ever looked up are those of definitions, and a
definition is only made together with those of its own components (`Settled`,
`registerAll_settles`). So after a contract is read, every parameter that emitted code maps has a
definition (`Maps`, `resolves_of_maps`). -/

namespace AbiBindings
namespace StructRegistry
set_option autoImplicit false

/-! ## Definitions bring those of their components -/

/-- The components of every definition that the later registry has gained are resolved there. -/
def Settled (r s : StructRegistry) : Prop :=
  ∀ d ∈ s.definitions, d ∉ r.definitions → ∀ q ∈ d.parameters, s.Resolves q

theorem Settled.refl (r : StructRegistry) : Settled r r :=
  fun _ hd hn => absurd hd hn

theorem Settled.trans {r s t : StructRegistry} (hrs : Settled r s) (hst : Settled s t)
    (he : Extends s t) : Settled r t := by
  intro d hd hn q hq
  by_cases hs : d ∈ s.definitions
  · exact (hrs d hs hn q hq).mono he
  · exact hst d hd hs q hq

theorem registerAll_settles_of (ps : List Parameter)
    (h : ∀ p ∈ ps, ∀ r : StructRegistry, (r.register p).Resolves p ∧ Settled r (r.register p))
    (r : StructRegistry) :
    (∀ p ∈ ps, (r.registerAll ps).Resolves p) ∧ Settled r (r.registerAll ps) := by
  induction ps generalizing r with
  | nil => exact ⟨by simp, .refl r⟩
  | cons p ps ih =>
    obtain ⟨hp, hsettled⟩ := h p List.mem_cons_self r
    obtain ⟨hps, hsettled'⟩ := ih (fun q hq => h q (List.mem_cons_of_mem _ hq)) (r.register p)
    have hext : Extends (r.register p) ((r.register p).registerAll ps) := extends_registerAll _ ps
    rw [registerAll]
    refine ⟨?_, hsettled.trans hsettled' hext⟩
    intro q hq
    rcases List.mem_cons.mp hq with rfl | hq
    · exact hp.mono hext
    · exact hps q hq

theorem register_settles (p : Parameter) (r : StructRegistry) :
    (r.register p).Resolves p ∧ Settled r (r.register p) := by
  induction p using Parameter.induction generalizing r with
  | step p ih =>
    by_cases h : r.lacks p = true
    · rw [register_of_lacks h]
      obtain ⟨hcomponents, hsettled⟩ := registerAll_settles_of p.components ih (r.define p)
      refine ⟨(resolves_define p).mono (extends_registerAll _ _), ?_⟩
      intro d hd hn q hq
      by_cases hs : d ∈ (r.define p).definitions
      · -- the one definition that is new here is that of `p`, and its components came after it
        rcases List.mem_append.mp hs with hs | hs
        · exact absurd hs hn
        · rw [List.mem_singleton.mp hs, StructDefinition.parameters_ofComponents] at hq
          exact hcomponents q hq
      · exact hsettled d hd hs q hq
    · rw [register_of_not_lacks h]
      exact ⟨resolves_of_not_lacks h, .refl r⟩

theorem registerAll_settles (ps : List Parameter) (r : StructRegistry) :
    (∀ p ∈ ps, (r.registerAll ps).Resolves p) ∧ Settled r (r.registerAll ps) :=
  registerAll_settles_of ps (fun p _ => register_settles p) r

/-! ## The parameters that emitted code maps -/

/-- A parameter whose type some part of the bindings of a contract refers to. -/
inductive Maps (r : StructRegistry) (c : Contract) : Parameter → Prop where
  | input {f : ContractFunction} {p : Parameter} (hf : f ∈ c.functions) (hp : p ∈ f.inputs) :
      Maps r c p
  | output {f : ContractFunction} {p : Parameter} (hf : f ∈ c.functions) (hp : p ∈ f.outputs) :
      Maps r c p
  | outputs {f : ContractFunction} (hf : f ∈ c.functions) (hlen : 1 < f.outputs.length) :
      Maps r c f.outputsParameter
  | eventInput {e : ContractEvent} {p : Parameter} (he : e ∈ c.events) (hp : p ∈ e.inputs)
      (hhash : p.isHashedTopic = false) : Maps r c p
  | component {d : StructDefinition} {p : Parameter} (hd : d ∈ r.definitions)
      (hp : p ∈ d.parameters) : Maps r c p

theorem mem_visited_of_maps {r : StructRegistry} {c : Contract} {p : Parameter}
    (h : r.Maps c p) :
    p ∈ c.functions.flatMap structParameters ++ c.events.flatMap eventParameters ∨
      ∃ d ∈ r.definitions, p ∈ d.parameters := by
  cases h with
  | @input f p hf hp =>
    refine .inl (List.mem_append_left _ (List.mem_flatMap.mpr ⟨f, hf, ?_⟩))
    exact List.mem_append_left _ (List.mem_append_left _ hp)
  | @output f p hf hp =>
    refine .inl (List.mem_append_left _ (List.mem_flatMap.mpr ⟨f, hf, ?_⟩))
    exact List.mem_append_left _ (List.mem_append_right _ hp)
  | @outputs f hf hlen =>
    refine .inl (List.mem_append_left _ (List.mem_flatMap.mpr ⟨f, hf, ?_⟩))
    have hstruct : f.hasOutputsStruct = true := by simpa [ContractFunction.hasOutputsStruct]
    exact List.mem_append_right _ (by simp [hstruct])
  | @eventInput e p he hp hhash =>
    refine .inl (List.mem_append_right _ (List.mem_flatMap.mpr ⟨e, he, ?_⟩))
    exact List.mem_filter.mpr ⟨hp, by simp [hhash]⟩
  | @component d p hd hp => exact .inr ⟨d, hd, hp⟩

/-- After a contract is read into a registry that only holds reserved names, whatever its bindings
map is resolved. -/
theorem resolves_of_maps {r : StructRegistry} (hr : r.definitions = []) {c : Contract}
    {p : Parameter} (h : (r.extract c).Maps c p) : (r.extract c).Resolves p := by
  obtain ⟨hvisited, hsettled⟩ := registerAll_settles
    (c.functions.flatMap structParameters ++ c.events.flatMap eventParameters) r
  rcases mem_visited_of_maps h with h | ⟨d, hd, hp⟩
  · exact hvisited p h
  · exact hsettled d hd (by simp [hr]) p hp

theorem definitions_reserveAll (r : StructRegistry) (names : List String) :
    (r.reserveAll names).definitions = r.definitions := by
  induction names generalizing r with
  | nil => rfl
  | cons name names ih => rw [reserveAll, List.foldl_cons, ← reserveAll, ih, definitions_reserve]

theorem mem_taken_reserveAll {r : StructRegistry} {names : List String} {name : String} :
    name ∈ (r.reserveAll names).taken ↔ name ∈ r.taken ∨ name ∈ names := by
  induction names generalizing r with
  | nil => simp [reserveAll]
  | cons other names ih =>
    rw [reserveAll, List.foldl_cons, ← reserveAll, ih, mem_reserve, List.mem_cons, or_assoc]

theorem subset_taken_reserveAll (r : StructRegistry) (names : List String) :
    names ⊆ (r.reserveAll names).taken :=
  fun _ h => mem_taken_reserveAll.mpr (.inr h)

theorem anonymous_reserveAll (r : StructRegistry) (names : List String) :
    (r.reserveAll names).anonymous = r.anonymous := by
  induction names generalizing r with
  | nil => rfl
  | cons name names ih => rw [reserveAll, List.foldl_cons, ← reserveAll, ih, anonymous_reserve]

end StructRegistry
end AbiBindings
