import AbiBindings.Proofs.Emit.Capture
import AbiBindings.Workspace.Settings

/-! # Emitted names are identifiers

Interfaces name functions, events and parameters by identifiers, and the internal types of their
tuples by structs (`Contract.WellNamed`). What the bindings make of such names are identifiers
again: a suffix or a number goes behind a name and never in front of it, and what a struct is
declared under begins where a name begins.

One name is made otherwise. The struct of a function's outputs has the function's name without `_`
and `$`, so a digit can come first. Of all names in a file only those of such classes are no
identifiers (`Contract.emitted_names_are_identifiers`). -/

namespace AbiBindings
set_option autoImplicit false

/-! ## Interfaces named by identifiers -/

/-- A parameter is named by an identifier or has no name, an internal type that a tuple has is that
of a struct, and the components are so too. -/
inductive Parameter.WellNamed : Parameter → Prop where
  | intro (p : Parameter) (name : p.name = "" ∨ IsIdentifier p.name)
      (internalType : p.isTuple = true → ∀ t ∈ p.internalType, IsStructType t)
      (inside : ∀ q ∈ p.components, q.WellNamed) : p.WellNamed

namespace Parameter.WellNamed

variable {p : Parameter}

theorem name (h : p.WellNamed) : p.name = "" ∨ IsIdentifier p.name := by
  cases h
  assumption

theorem internalType (h : p.WellNamed) :
    p.isTuple = true → ∀ t ∈ p.internalType, IsStructType t := by
  cases h
  assumption

theorem inside (h : p.WellNamed) : ∀ q ∈ p.components, q.WellNamed := by
  cases h
  assumption

/-- The struct of a tuple is declared under an identifier if at all. -/
theorem isIdentifier_structName (h : p.WellNamed) (hp : p.isTuple = true) {n : String}
    (hn : p.structName? = some n) : IsIdentifier n :=
  isIdentifier_of_structName? (fun t ht =>
    ⟨(h.internalType hp t ht).isAscii, (h.internalType hp t ht).digitsInside⟩) hn

end Parameter.WellNamed

/-- Functions and events are named by identifiers, and their parameters are well named. -/
structure Contract.WellNamed (c : Contract) : Prop where
  functions : ∀ f ∈ c.functions, IsIdentifier f.name
  parameters : ∀ f ∈ c.functions, ∀ p ∈ f.inputs ++ f.outputs, p.WellNamed
  events : ∀ e ∈ c.events, IsIdentifier e.name
  eventInputs : ∀ e ∈ c.events, ∀ p ∈ e.inputs, p.WellNamed

theorem isContractName_iff {name : String} :
    Settings.isContractName name = true ↔ IsIdentifier name := by
  rw [Settings.isContractName, IsIdentifier]
  split
  · rename_i hname
    simp [hname]
  · rename_i c rest hname
    have hrest : (rest.all fun d => d.isAlphanum || d == '_' || d == '$') =
        rest.all Text.isIdentifierChar := rfl
    rw [hname, hrest, List.head?_cons, Option.any_some, List.forall_mem_cons, Bool.and_eq_true,
      List.all_eq_true]
    exact ⟨fun ⟨hc, hall⟩ => ⟨hc, (Text.isInitial_iff.mp hc).1, hall⟩,
      fun ⟨hc, _, hall⟩ => ⟨hc, hall⟩⟩

/-! ## The names of a file -/

namespace SourceFile

/-- The properties and methods of all classes: those that classes have of their own are the ones
that names of properties keep clear of. -/
def memberNames (f : SourceFile) : List String :=
  NameScope.property.reserved
    ++ f.contract.methods.map Method.name
    ++ f.structs.flatMap (fun s => s.fields.map StructField.field)
    ++ f.events.flatMap (fun e => e.fields.map EventField.field)

/-- The parameters and variables in all bodies, and the parameters of the functions that encode the
items of fields. -/
def variableNames (f : SourceFile) : List String :=
  f.bodies.flatMap (fun b => b.bound ++ b.introduced ++ b.nested)
    ++ f.structs.flatMap fun s => s.fields.flatMap fun field => field.encoding.nested

end SourceFile

theorem NameScope.isIdentifier_of_mem_reserved (scope : NameScope) {n : String}
    (h : n ∈ scope.reserved) : IsIdentifier n := by
  have hall : scope.reserved.all (fun n => decide (IsIdentifier n)) = true := by
    cases scope <;> decide +kernel
  exact of_decide_eq_true (List.all_eq_true.mp hall n h)

theorem IsItemName.isIdentifier {n : String} (h : IsItemName n) : IsIdentifier n := by
  obtain ⟨level, rfl | rfl⟩ := h
  · have hstem : IsIdentifier "item" := by decide +kernel
    exact keptByEndings_isIdentifier.number hstem level
  · have hstem : IsIdentifier "s" := by decide +kernel
    exact keptByEndings_isIdentifier.number hstem level

/-! ## Members and variables -/

theorem isIdentifier_of_mem_nameParameters {scope : NameScope} {stem : String}
    (hstem : IsIdentifier stem) {ps : List Parameter} (h : ∀ p ∈ ps, p.WellNamed)
    {p : NamedParameter} (hp : p ∈ scope.nameParameters stem ps) : IsIdentifier p.name :=
  keptByEndings_isIdentifier.of_mem_nameParameters (fun q hq =>
    keptByEndings_isIdentifier.of_nameOr hstem (h q hq).name) hp

theorem Parameter.wellNamed_amountParameter : amountParameter.WellNamed :=
  .intro _ (.inr (by decide +kernel)) (by simp [amountParameter]) (by simp [amountParameter])

theorem StructRegistry.isIdentifier_of_mem_bound_method (r : StructRegistry) {f : ContractFunction}
    (hf : ∀ p ∈ f.inputs ++ f.outputs, p.WellNamed) {name n : String}
    (hn : n ∈ (r.method f name).names.bound) : IsIdentifier n := by
  rw [Method.names, names_method] at hn
  obtain ⟨p, hp, rfl⟩ := List.mem_map.mp hn
  refine isIdentifier_of_mem_nameParameters (by decide +kernel) (fun q hq => ?_) hp
  rcases of_mem_methodParameters hq with hq | rfl
  · exact hf q (List.mem_append_left _ hq)
  · exact Parameter.wellNamed_amountParameter

/-! ## Structs and events -/

/-- The tuple is that of a well-named parameter, or the outputs of a function. -/
structure Contract.Declares (c : Contract) (p : Parameter) : Prop where
  structName : p.isTuple = true → ∀ n ∈ p.structName?, IsIdentifier n ∨
    ∃ f ∈ c.functions, f.hasOutputsStruct = true ∧ n = outputsStructName f.name
  inside : ∀ q ∈ p.components, q.WellNamed

/-- The name is that of the class for the outputs of a function whose name, without `_` and `$`,
begins with a digit. -/
def Contract.IsDigitClass (c : Contract) (n : String) : Prop :=
  ∃ f ∈ c.functions, f.hasOutputsStruct = true ∧ digitComesFirst f.name = true ∧
    (n = outputsStructName f.name ∨ ∃ k : Nat, n = outputsStructName f.name ++ toString k)

namespace Contract

variable {c : Contract} {library name : String}

theorem Declares.of_wellNamed {p : Parameter} (h : p.WellNamed) : c.Declares p where
  structName hp _ hn := .inl (h.isIdentifier_structName hp (Option.mem_def.mp hn))
  inside := h.inside

namespace WellNamed

theorem declares_outputsParameter (hc : c.WellNamed) {f : ContractFunction} (hf : f ∈ c.functions)
    (hstruct : f.hasOutputsStruct = true) : c.Declares f.outputsParameter where
  structName _ n hn := by
    have hword : ∀ x ∈ (outputsStructName f.name).toList,
        Text.isWordChar x = true ∧ Text.isBlank x = false := fun x hx =>
      Text.isWordChar_of_isStemChar
        (isStemChar_of_mem_outputsStructName (hc.functions f hf).isAscii hx)
    rw [structName?_outputsParameter hword, Option.mem_some_iff] at hn
    exact .inr ⟨f, hf, hstruct, hn.symm⟩
  inside q hq := hc.parameters f hf q (List.mem_append_right _ hq)

theorem exists_declares (hc : c.WellNamed) {d : StructDefinition}
    (hd : d ∈ (c.structs name).definitions) :
    ∃ (p : Parameter) (taken : List String) (n : Nat), c.Declares p ∧ p.isTuple = true ∧
      d = .ofComponents (uniqueName taken (p.structName?.getD ("Tuple" ++ toString n)))
        p.structName? p.components :=
  exists_origin (fun _ hp q hq => .of_wellNamed (hp.inside q hq))
    (forall_visited (fun f hf p hp => .of_wellNamed (hc.parameters f hf p hp))
      (fun _ => hc.declares_outputsParameter)
      fun e he p hp => .of_wellNamed (hc.eventInputs e he p hp)) hd

theorem isIdentifier_structField (hc : c.WellNamed) {d : StructDefinition}
    (hd : d ∈ (c.structs name).definitions) {f : StructField}
    (hf : f ∈ ((c.structs name).structClass d).fields) :
    IsIdentifier f.field ∧ IsIdentifier f.variableName := by
  refine StructRegistry.keeps_structField _ keptByEndings_isIdentifier (fun p hp => ?_) hf
  obtain ⟨q, taken, n, hq, -, rfl⟩ := hc.exists_declares hd
  exact isIdentifier_of_mem_nameParameters (by decide +kernel) hq.inside hp

theorem isIdentifier_eventField (hc : c.WellNamed) {e : ContractEvent} (he : e ∈ c.events)
    {chosen : String} {f : EventField} (hf : f ∈ ((c.structs name).eventClass e chosen).fields) :
    IsIdentifier f.field ∧ IsIdentifier f.variableName :=
  StructRegistry.keeps_eventField _ keptByEndings_isIdentifier (by decide +kernel)
    (fun p hp => (hc.eventInputs e he p hp).name) hf

theorem isIdentifier_className (hc : c.WellNamed) {d : StructDefinition}
    (hd : d ∈ (c.structs name).definitions) :
    IsIdentifier d.className ∨ c.IsDigitClass d.className := by
  obtain ⟨p, taken, n, hp, htuple, rfl⟩ := hc.exists_declares hd
  have hkept := keptByEndings_isIdentifier
  cases hname : p.structName? with
  | none =>
    have hstem : IsIdentifier "Tuple" := by decide +kernel
    exact .inl (hkept.of_uniqueName (hkept.number hstem n) taken)
  | some declared =>
    rcases hp.structName htuple declared hname with hdeclared | ⟨f, hf, hstruct, rfl⟩
    · exact .inl (hkept.of_uniqueName hdeclared taken)
    · cases hdigit : digitComesFirst f.name with
      | false =>
        have houtputs := (isIdentifier_outputsStructName_iff (hc.functions f hf)).mpr hdigit
        exact .inl (hkept.of_uniqueName houtputs taken)
      | true => exact .inr ⟨f, hf, hstruct, hdigit, uniqueName_eq taken _⟩

end WellNamed

/-! ## Files -/

theorem IsDigitClass.not_isIdentifier (hc : c.WellNamed) {n : String} (h : c.IsDigitClass n) :
    ¬ IsIdentifier n := by
  obtain ⟨f, hf, -, hdigit, hn⟩ := h
  have houtputs : ¬ IsIdentifier (outputsStructName f.name) := fun hidentifier => by
    rw [isIdentifier_outputsStructName_iff (hc.functions f hf), hdigit] at hidentifier
    simp at hidentifier
  have hne : outputsStructName f.name ≠ "" := by simp [outputsStructName]
  rcases hn with rfl | ⟨k, rfl⟩
  · exact houtputs
  · exact fun hidentifier => houtputs (hidentifier.of_append hne)

theorem WellNamed.of_mem_classNames (hc : c.WellNamed)
    (hname : Settings.isContractName name = true) {n : String}
    (hn : n ∈ (c.bindings library name).classNames) : IsIdentifier n ∨ c.IsDigitClass n := by
  rw [classNames_bindings] at hn
  rcases List.mem_cons.mp hn with rfl | hn
  · exact .inl (isContractName_iff.mp hname)
  · rcases List.mem_append.mp hn with hn | hn
    · obtain ⟨d, hd, rfl⟩ := List.mem_map.mp hn
      exact hc.isIdentifier_className hd
    · have hending : "Event".toList.all Text.isIdentifierChar = true := by decide +kernel
      refine .inl (keptByEndings_isIdentifier.of_mem_uniqueNames ?_ hn)
      exact List.forall_mem_map.mpr fun e he =>
        (hc.events e he).append (List.all_eq_true.mp hending)

theorem WellNamed.isIdentifier_of_mem_memberNames (hc : c.WellNamed) {n : String}
    (hn : n ∈ (c.bindings library name).memberNames) : IsIdentifier n := by
  simp only [SourceFile.memberNames, List.mem_append, or_assoc] at hn
  rcases hn with hn | hn | hn | hn
  · exact NameScope.property.isIdentifier_of_mem_reserved hn
  · obtain ⟨m, hm, rfl⟩ := List.mem_map.mp hn
    obtain ⟨f, -, chosen, hchosen, rfl⟩ := StructRegistry.of_mem_methods _ hm
    exact keptByEndings_isIdentifier.of_mem_resolve (List.forall_mem_map.mpr hc.functions) hchosen
  · obtain ⟨s, hs, hn⟩ := List.mem_flatMap.mp hn
    obtain ⟨d, hd, rfl⟩ := List.mem_map.mp hs
    obtain ⟨field, hfield, rfl⟩ := List.mem_map.mp hn
    exact (hc.isIdentifier_structField hd hfield).1
  · obtain ⟨k, hk, hn⟩ := List.mem_flatMap.mp hn
    obtain ⟨e, he, chosen, -, rfl⟩ := StructRegistry.of_mem_eventClasses _ hk
    obtain ⟨field, hfield, rfl⟩ := List.mem_map.mp hn
    exact (hc.isIdentifier_eventField he hfield).1

theorem WellNamed.isIdentifier_of_mem_bound (hc : c.WellNamed) {b : BodyNames}
    (hb : b ∈ (c.bindings library name).bodies) {n : String} (hn : n ∈ b.bound) :
    IsIdentifier n := by
  have hstruct {d : StructDefinition} (hd : d ∈ (c.structs name).definitions)
      (hn : n ∈ ((c.structs name).structClass d).fields.map StructField.variableName) :
      IsIdentifier n := by
    obtain ⟨field, hfield, rfl⟩ := List.mem_map.mp hn
    exact (hc.isIdentifier_structField hd hfield).2
  have hevent {e : ContractEvent} (he : e ∈ c.events) {chosen : String}
      (hn : n ∈ ((c.structs name).eventClass e chosen).fields.map EventField.variableName) :
      IsIdentifier n := by
    obtain ⟨field, hfield, rfl⟩ := List.mem_map.mp hn
    exact (hc.isIdentifier_eventField he hfield).2
  rcases of_mem_bodies hb with
    ⟨f, hf, chosen, rfl⟩ | ⟨d, hd, rfl | rfl⟩ | ⟨e, he, chosen, -, rfl | rfl⟩
  · exact StructRegistry.isIdentifier_of_mem_bound_method _ (hc.parameters f hf) hn
  · exact hstruct hd hn
  · exact hstruct hd hn
  · exact hevent he hn
  · exact hevent he hn

theorem WellNamed.isIdentifier_of_mem_variableNames (hc : c.WellNamed) {n : String}
    (hn : n ∈ (c.bindings library name).variableNames) : IsIdentifier n := by
  rcases List.mem_append.mp hn with hn | hn
  · obtain ⟨b, hb, hn⟩ := List.mem_flatMap.mp hn
    rcases List.mem_append.mp hn with hn | hn
    · rcases List.mem_append.mp hn with hn | hn
      · exact hc.isIdentifier_of_mem_bound hb hn
      · obtain ⟨scope, hkept⟩ := kept_of_mem_bodies hb
        exact scope.isIdentifier_of_mem_reserved (hkept.introduced hn)
    · exact (isItemName_of_mem_nested hb hn).isIdentifier
  · obtain ⟨s, hs, hn⟩ := List.mem_flatMap.mp hn
    obtain ⟨d, -, rfl⟩ := List.mem_map.mp hs
    obtain ⟨field, hfield, hn⟩ := List.mem_flatMap.mp hn
    obtain ⟨p, -, i, -, -, -, -, hencoding⟩ := StructRegistry.of_mem_fields_structClass _ hfield
    rw [hencoding] at hn
    exact (TypeShape.isItemName_of_mem_encoding hn).isIdentifier

/-- Under a valid name, all members, parameters and variables in the bindings of a well-named
interface are called by identifiers. So are all classes but those for the outputs of functions
whose names, without `_` and `$`, begin with a digit: they begin with it too. -/
theorem emitted_names_are_identifiers (hc : c.WellNamed)
    (hname : Settings.isContractName name = true) (library : String) :
    let file := c.bindings library name
    (∀ n ∈ file.memberNames ++ file.variableNames, IsIdentifier n) ∧
      ∀ n ∈ file.classNames, ¬ IsIdentifier n ↔ c.IsDigitClass n := by
  intro file
  refine ⟨fun n hn => ?_, fun n hn => ⟨fun hnot => ?_, IsDigitClass.not_isIdentifier hc⟩⟩
  · rcases List.mem_append.mp hn with hn | hn
    · exact hc.isIdentifier_of_mem_memberNames hn
    · exact hc.isIdentifier_of_mem_variableNames hn
  · exact (hc.of_mem_classNames hname hn).resolve_left hnot

/-- A pool that takes two keys, gives two values back and reports moves. -/
theorem names_of_pool_are_identifiers :
    let key : Parameter :=
      { name := "keys", typeText := "tuple[2]", internalType := some "struct Pool.Key[2]"
        components := [{ name := "owner", typeText := "address" }, { typeText := "uint256" }] }
    let pool : Contract := { entries := [
      .function { name := "_quote$", inputs := [key], mutability := .view
                  outputs := [{ typeText := "uint256" }, { name := "done", typeText := "bool" }] },
      .event { name := "Moved", inputs := [key], anonymous := false }] }
    let file := pool.bindings "lib" "Pool"
    (pool.WellNamed ∧ Settings.isContractName "Pool" = true) ∧
      file.classNames = ["Pool", "Key", "QuoteOutputs", "MovedEvent"] ∧
      (∀ n ∈ file.memberNames ++ file.variableNames, IsIdentifier n) ∧
      ∀ n ∈ file.classNames, ¬ IsIdentifier n ↔ pool.IsDigitClass n := by
  intro key pool file
  have hkey : key.WellNamed := by
    refine .intro _ (.inr (by decide +kernel)) (fun _ t ht => ?_) ?_
    · obtain rfl : "struct " ++ "Pool" ++ "." ++ "Key" ++ ("[" ++ "2" ++ "]") = t := by
        simpa [key] using ht
      exact .array (.inLibrary (by decide +kernel) (by decide +kernel)) (by simp)
    · simp only [key, List.forall_mem_cons]
      exact ⟨.intro _ (.inr (by decide +kernel)) (by simp) (by simp),
        .intro _ (.inl rfl) (by simp) (by simp), by simp⟩
  have hpool : pool.WellNamed := by
    refine ⟨by decide +kernel, ?_, by decide +kernel, ?_⟩
    · intro f hf
      obtain rfl := List.mem_singleton.mp hf
      simp only [List.forall_mem_append, List.forall_mem_cons]
      exact ⟨⟨hkey, by simp⟩, .intro _ (.inl rfl) (by simp) (by simp),
        .intro _ (.inr (by decide +kernel)) (by simp) (by simp), by simp⟩
    · intro e he
      obtain rfl := List.mem_singleton.mp he
      simpa using hkey
  have hname : Settings.isContractName "Pool" = true := by decide +kernel
  exact ⟨⟨hpool, hname⟩, by decide +kernel, emitted_names_are_identifiers hpool hname "lib"⟩

/-- The outputs of a function `_1` get a class whose name begins with the digit. -/
theorem outputs_of_underscored_digit :
    let pair : Contract := { entries := [
      .function { name := "_1", inputs := [], mutability := .view
                  outputs := [{ typeText := "uint256" }, { typeText := "bool" }] }] }
    let file := pair.bindings "lib" "Pair"
    (pair.WellNamed ∧ Settings.isContractName "Pair" = true ∧ pair.isEmpty = false) ∧
      (∃ s ∈ file.structs, (classHead "1Outputs").toList <+: s.text.toList) ∧
      file.classNames = ["Pair", "1Outputs"] ∧ ¬ IsIdentifier "1Outputs" := by
  intro pair file
  have hpair : pair.WellNamed := by
    refine ⟨by decide +kernel, ?_, by decide +kernel, by simp [pair, events, Entry.event?]⟩
    intro f hf
    obtain rfl := List.mem_singleton.mp hf
    simp only [List.nil_append, List.forall_mem_cons]
    exact ⟨.intro _ (.inl rfl) (by simp) (by simp), .intro _ (.inl rfl) (by simp) (by simp),
      by simp⟩
  obtain ⟨s, hs, hname⟩ : ∃ s ∈ file.structs, s.name = "1Outputs" := by decide +kernel
  exact ⟨⟨hpair, by decide +kernel, rfl⟩, ⟨s, hs, Template.prefix_fill hname rfl⟩,
    by decide +kernel, by decide +kernel⟩

end Contract
end AbiBindings
