import AbiBindings.Proofs.Emit.Rendering
import AbiBindings.Proofs.Struct.Growth
import Mathlib.Data.List.TakeWhile

/-! # What a change of types changes

Where the types of a function's inputs, or of its only output, are changed and are no tuples before
or after (`ContractFunction.Retyped`), no struct is gained or lost and every name stays as it is.
The texts of the bindings then differ in the import statement and in the method of that function,
and agree in everything before, between and behind these two (`retyping_is_local`). -/

namespace AbiBindings
set_option autoImplicit false

/-! ## Changed types -/

/-- Two parameters that differ at most in the texts of their types, neither of which is a tuple. -/
def Parameter.Retyped (p q : Parameter) : Prop :=
  p = q ∨ p.isTuple = false ∧ q.isTuple = false ∧ q = { p with typeText := q.typeText }

/-- Two functions that differ at most in the types of their inputs, and of their output where there
is just one. -/
structure ContractFunction.Retyped (f g : ContractFunction) : Prop where
  name : g.name = f.name
  mutability : g.mutability = f.mutability
  inputs : List.Forall₂ Parameter.Retyped f.inputs g.inputs
  outputs : g.outputs = f.outputs ∨
    ∃ p q, f.outputs = [p] ∧ g.outputs = [q] ∧ Parameter.Retyped p q

theorem Parameter.forall₂_retyped (ps : List Parameter) : List.Forall₂ Parameter.Retyped ps ps :=
  List.forall₂_same.mpr fun _ _ => .inl rfl

namespace StructRegistry

theorem register_of_not_isTuple {r : StructRegistry} {p : Parameter} (h : p.isTuple = false) :
    r.register p = r :=
  register_of_not_lacks fun hlacks => by simp [(lacks_iff.mp hlacks).1] at h

theorem registerAll_retyped {ps qs : List Parameter} (h : List.Forall₂ Parameter.Retyped ps qs)
    (r : StructRegistry) : r.registerAll qs = r.registerAll ps := by
  induction h generalizing r with
  | nil => rfl
  | cons hpq _ ih =>
    rw [registerAll, registerAll, ih]
    rcases hpq with rfl | ⟨hp, hq, -⟩
    · rfl
    · rw [register_of_not_isTuple hp, register_of_not_isTuple hq]

theorem structParameters_of_single {f : ContractFunction} {p : Parameter} (h : f.outputs = [p]) :
    structParameters f = f.inputs ++ [p] := by
  simp [structParameters, ContractFunction.hasOutputsStruct, h]

theorem structParameters_retyped {f g : ContractFunction} (h : f.Retyped g) :
    List.Forall₂ Parameter.Retyped (structParameters f) (structParameters g) := by
  rcases h.outputs with houtputs | ⟨p, q, hp, hq, hpq⟩
  · have hstruct : g.outputsParameter = f.outputsParameter := by
      rw [ContractFunction.outputsParameter, ContractFunction.outputsParameter, h.name, houtputs]
    rw [structParameters, structParameters, ContractFunction.hasOutputsStruct,
      ContractFunction.hasOutputsStruct, hstruct, houtputs]
    exact List.rel_append (List.rel_append h.inputs (Parameter.forall₂_retyped _))
      (Parameter.forall₂_retyped _)
  · rw [structParameters_of_single hp, structParameters_of_single hq]
    exact List.rel_append h.inputs (.cons hpq .nil)

end StructRegistry

/-! ## Names and structs -/

namespace Contract

variable {c d : Contract} {before after : List Entry} {f g : ContractFunction}

theorem functions_eq (hc : c.entries = before ++ .function f :: after) :
    c.functions = before.filterMap Entry.function? ++ f :: after.filterMap Entry.function? := by
  simp [functions, hc, Entry.function?]

theorem events_eq (hc : c.entries = before ++ .function f :: after) :
    c.events = before.filterMap Entry.event? ++ after.filterMap Entry.event? := by
  rw [events, hc, List.filterMap_append, List.filterMap_cons_none rfl]

theorem structs_retyped (hc : c.entries = before ++ .function f :: after)
    (hd : d.entries = before ++ .function g :: after) (h : f.Retyped g) (name : String) :
    d.structs name = c.structs name := by
  rw [structs, structs, StructRegistry.extract, StructRegistry.extract, functions_eq hc,
    functions_eq hd, events_eq hc, events_eq hd]
  refine StructRegistry.registerAll_retyped ?_ _
  simp only [List.flatMap_append, List.flatMap_cons]
  exact List.rel_append (List.rel_append (Parameter.forall₂_retyped _)
    (List.rel_append (StructRegistry.structParameters_retyped h) (Parameter.forall₂_retyped _)))
    (Parameter.forall₂_retyped _)

theorem names_retyped (hc : c.entries = before ++ .function f :: after)
    (hd : d.entries = before ++ .function g :: after) (h : f.Retyped g) :
    d.functions.map ContractFunction.name = c.functions.map ContractFunction.name := by
  rw [functions_eq hc, functions_eq hd, List.map_append, List.map_append, List.map_cons,
    List.map_cons, h.name]

end Contract

theorem zipWith_append_cons {α β γ : Type} (combine : α → β → γ) {before after : List α} {a : α}
    {names : List β} (h : names.length = (before ++ a :: after).length) :
    ∃ chosen, ∃ earlier later : List γ, earlier.length = before.length ∧
      ∀ b, List.zipWith combine (before ++ b :: after) names =
        earlier ++ combine b chosen :: later := by
  induction before generalizing names with
  | nil =>
    obtain ⟨chosen, names, rfl⟩ := List.exists_cons_of_length_eq_add_one h
    exact ⟨chosen, [], List.zipWith combine after names, rfl, fun b => rfl⟩
  | cons first before ih =>
    obtain ⟨other, names, rfl⟩ := List.exists_cons_of_length_eq_add_one h
    obtain ⟨chosen, earlier, later, hlength, hsplit⟩ := ih (Nat.succ.inj h)
    refine ⟨chosen, combine first other :: earlier, later, congrArg (· + 1) hlength, fun b => ?_⟩
    rw [List.cons_append, List.zipWith_cons_cons, hsplit, List.cons_append]

/-! ## Texts -/

theorem concat_append (parts more : List String) :
    "".intercalate (parts ++ more) = "".intercalate parts ++ "".intercalate more := by
  rw [← String.toList_inj, toList_concat, String.toList_append, toList_concat, toList_concat,
    List.map_append, List.flatten_append]

theorem intercalate_cons_eq_concat (separator first : String) (rest : List String) :
    separator.intercalate (first :: rest) =
      first ++ "".intercalate (rest.map fun part => separator ++ part) := by
  induction rest generalizing first with
  | nil => simp
  | cons second rest ih =>
    rw [String.intercalate_cons_cons, ih, List.map_cons, Template.concat_cons,
      String.append_assoc, String.append_assoc]

theorem Text.dropTrailing_append_cons {p : Char → Bool} (s : List Char) {c : Char}
    {blanks : List Char} (hc : p c = false) (h : ∀ b ∈ blanks, p b = true) :
    dropTrailing p (s ++ c :: blanks) = s ++ [c] := by
  have hblanks : blanks.reverse.dropWhile p = [] := by
    rw [List.dropWhile_eq_nil_iff]
    exact fun b hb => h b (List.mem_reverse.mp hb)
  simp [dropTrailing, List.dropWhile_append, hblanks, hc]

namespace ContractClass

/-- What comes before the methods in the class of a contract. -/
def opening (name : String) : String :=
  "".intercalate ((Template.contractClass.pieces.take 15).map (Template.pieceText fun _ => name))

/-- The methods of a class as they are written, each behind a blank line. -/
def methodsText (methods : List Method) : String :=
  "".intercalate (methods.map fun m => "\n\n" ++ m.text)

theorem methodsText_append_cons (earlier later : List Method) (m : Method) :
    methodsText (earlier ++ m :: later) =
      methodsText earlier ++ "\n\n" ++ m.text ++ methodsText later := by
  rw [methodsText, List.map_append, List.map_cons, concat_append, Template.concat_cons,
    ← String.append_assoc, ← String.append_assoc]
  rfl

theorem trimEnd_append_brace (s : String) :
    Text.trimEnd (s ++ "\n\x7d\n") = s ++ "\n\x7d" := by
  have hbefore : (s ++ "\n\x7d\n").toList = (s ++ "\n").toList ++ '\x7d' :: ['\n'] := by simp
  have hbrace : Text.isBlank '\x7d' = false := by decide
  have hbreak : ∀ b ∈ ['\n'], Text.isBlank b = true := List.forall_mem_singleton.mpr (by decide)
  rw [Text.trimEnd, hbefore, Text.dropTrailing_append_cons _ hbrace hbreak, ← String.toList_inj]
  simp

theorem text_eq (c : ContractClass) :
    c.text = opening c.name ++ methodsText c.methods ++ "\n\x7d" := by
  have hpieces : Template.contractClass.pieces =
      Template.contractClass.pieces.take 15 ++ [.slot .methods, .text "\n\x7d\n"] := rfl
  rw [← trimEnd_append_brace, text, Template.fill, hpieces, List.map_append, concat_append,
    String.append_assoc]
  refine congrArg Text.trimEnd (congrArg₂ (· ++ ·) rfl ?_)
  rw [List.map_cons, Template.concat_cons]
  rfl

end ContractClass

namespace SourceFile

/-- What comes between the import statement and the method behind some others. -/
def beforeMethod (f : SourceFile) (earlier : List Method) : String :=
  "\n\n" ++ ContractClass.opening f.contract.name ++ ContractClass.methodsText earlier ++ "\n\n"

/-- What comes behind the method before some others. -/
def behindMethod (f : SourceFile) (later : List Method) : String :=
  ContractClass.methodsText later ++ "\n\x7d"
    ++ "".intercalate ((f.structs.map StructClass.text ++ f.events.map EventClass.text).map
      fun text => "\n\n" ++ text)
    ++ "\n"

theorem text_eq_around {f : SourceFile} {earlier later : List Method} {m : Method}
    (h : f.contract.methods = earlier ++ m :: later) :
    f.text = f.imports.render ++ f.beforeMethod earlier ++ m.text ++ f.behindMethod later := by
  rw [text_eq, classesText, List.cons_append, intercalate_cons_eq_concat, ContractClass.text_eq, h,
    ContractClass.methodsText_append_cons, beforeMethod, behindMethod]
  simp only [String.append_assoc]

end SourceFile

/-! ## Two runs -/

namespace Contract

variable {c d : Contract} {before after : List Entry} {f g : ContractFunction}

theorem exists_methods_retyped (hc : c.entries = before ++ .function f :: after)
    (hd : d.entries = before ++ .function g :: after) (h : f.Retyped g) (library name : String) :
    ∃ (chosen : String) (earlier later : List Method),
      earlier.length = (before.filterMap Entry.function?).length ∧
      (c.bindings library name).contract.methods =
        earlier ++ (c.structs name).method f chosen :: later ∧
      (d.bindings library name).contract.methods =
        earlier ++ (c.structs name).method g chosen :: later := by
  have hnames : (NameScope.method.resolve (c.functions.map ContractFunction.name)).length =
      (before.filterMap Entry.function? ++ f :: after.filterMap Entry.function?).length := by
    rw [NameScope.length_resolve, List.length_map, functions_eq hc]
  obtain ⟨chosen, earlier, later, hlength, hmethods⟩ :=
    zipWith_append_cons (c.structs name).method hnames
  refine ⟨chosen, earlier, later, hlength, ?_, ?_⟩
  · rw [bindings, StructRegistry.contractClass, ← hmethods f, ← functions_eq hc]
  · rw [bindings, StructRegistry.contractClass, structs_retyped hc hd h, names_retyped hc hd h,
      ← hmethods g, ← functions_eq hd]

/-- Where functions differ in types that are no tuples, the bindings of their contracts differ in
the import statement and in the methods of these functions. -/
theorem retyping_is_local (hc : c.entries = before ++ .function f :: after)
    (hd : d.entries = before ++ .function g :: after) (h : f.Retyped g) (library name : String) :
    (d.bindings library name).structs = (c.bindings library name).structs ∧
    (d.bindings library name).events = (c.bindings library name).events ∧
    ∃ (chosen : String) (earlier later : List Method) (head tail : String),
      earlier.length = (before.filterMap Entry.function?).length ∧
      (c.bindings library name).contract.methods =
        earlier ++ (c.structs name).method f chosen :: later ∧
      (d.bindings library name).contract.methods =
        earlier ++ (c.structs name).method g chosen :: later ∧
      c.generate library name = .ok ((c.bindings library name).imports.render ++ head
        ++ ((c.structs name).method f chosen).text ++ tail) ∧
      d.generate library name = .ok ((d.bindings library name).imports.render ++ head
        ++ ((c.structs name).method g chosen).text ++ tail) := by
  have hstructs : (d.bindings library name).structs = (c.bindings library name).structs := by
    rw [bindings, bindings, structs_retyped hc hd h]
  have hevents : (d.bindings library name).events = (c.bindings library name).events := by
    rw [bindings, bindings, structs_retyped hc hd h, events_eq hc, events_eq hd]
  obtain ⟨chosen, earlier, later, hlength, hmethods, hmethods'⟩ :=
    exists_methods_retyped hc hd h library name
  refine ⟨hstructs, hevents, chosen, earlier, later,
    (c.bindings library name).beforeMethod earlier, (c.bindings library name).behindMethod later,
    hlength, hmethods, hmethods', ?_, ?_⟩
  · rw [generate_eq_ok, bindingsText, if_neg (by simp [isEmpty, hc]),
      SourceFile.text_eq_around hmethods]
  · have hbefore : (d.bindings library name).beforeMethod earlier =
        (c.bindings library name).beforeMethod earlier := rfl
    have hbehind : (d.bindings library name).behindMethod later =
        (c.bindings library name).behindMethod later := by
      rw [SourceFile.behindMethod, SourceFile.behindMethod, hstructs, hevents]
    rw [generate_eq_ok, bindingsText, if_neg (by simp [isEmpty, hd]),
      SourceFile.text_eq_around hmethods', hbefore, hbehind]

/-- A price whose amount and result become types that bindings do not know: the struct beside them
and the other function keep their text. -/
theorem retyping_of_price :
    let key : Parameter :=
      { name := "key", typeText := "tuple", internalType := some "struct Vault.Key"
        components := [{ name := "open", typeText := "bool" }] }
    let price (amount result : String) : ContractFunction :=
      { name := "price", inputs := [{ name := "amount", typeText := amount }, key]
        outputs := [{ typeText := result }], mutability := .view }
    let pause : ContractFunction :=
      { name := "pause", inputs := [], outputs := [], mutability := .nonpayable }
    let before : List Entry := [.event { name := "Paused", inputs := [key], anonymous := false }]
    let vault (f : ContractFunction) : Contract :=
      { entries := before ++ .function f :: [.function pause] }
    let known := price "uint256" "address[]"
    let unknown := price "fixed128x18" "function"
    let file (f : ContractFunction) := (vault f).bindings "library" "Vault"
    let method (f : ContractFunction) := ((vault known).structs "Vault").method f "price"
    known.Retyped unknown ∧ (file unknown).imports.sortedNames ≠ (file known).imports.sortedNames ∧
      ∃ head tail, ∀ f ∈ [known, unknown], (vault f).generate "library" "Vault" =
        .ok ((file f).imports.render ++ head ++ (method f).text ++ tail) := by
  intro key price pause before vault known unknown file method
  have hretyped : known.Retyped unknown :=
    { name := rfl, mutability := rfl
      inputs := .cons (.inr ⟨by decide +kernel, by decide +kernel, rfl⟩) (.cons (.inl rfl) .nil)
      outputs := .inr ⟨_, _, rfl, rfl, .inr ⟨by decide +kernel, by decide +kernel, rfl⟩⟩ }
  have hbefore : (vault known).entries = before ++ .function known :: [.function pause] := rfl
  have hafter : (vault unknown).entries = before ++ .function unknown :: [.function pause] := rfl
  obtain ⟨-, -, chosen, earlier, later, head, tail, hlength, hmethods, -, hknown, hunknown⟩ :=
    retyping_is_local hbefore hafter hretyped "library" "Vault"
  obtain rfl : earlier = [] := List.length_eq_zero_iff.mp hlength
  have hnames := congrArg (List.map Method.name) hmethods
  have hchosen : "price" = chosen :=
    Eq.trans (by decide +kernel) (List.cons.inj hnames).1
  subst hchosen
  refine ⟨hretyped, by decide +kernel, head, tail, ?_⟩
  simpa using ⟨hknown, hunknown⟩

end Contract

end AbiBindings
