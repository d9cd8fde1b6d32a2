import AbiBindings.Abi.Signature
import AbiBindings.Proofs.Abi.Strings
import AbiBindings.Proofs.Emit.Mentions
import AbiBindings.Proofs.Names.Resolution

/-! # Names without library symbols

An interface is quiet when none of its strings holds the name of a library symbol. The names that
emitted code makes of them are free of symbols as well: what is put behind a name that has to give
way begins with an underscore or a digit, and no symbol has either. -/

namespace AbiBindings
set_option autoImplicit false

/-- No string of the parameter holds the name of a library symbol. -/
def Parameter.Quiet (p : Parameter) : Prop :=
  ∀ t ∈ p.strings, SymbolFree t

theorem Parameter.Quiet.component {p q : Parameter} (h : p.Quiet) (hq : q ∈ p.components) :
    q.Quiet :=
  fun t ht => h t (strings_subset_of_mem_components hq ht)

/-! ## Resolved names -/

theorem SymbolFree.append_suffix {t : String} (h : SymbolFree t) (scope : NameScope) :
    SymbolFree (t ++ scope.suffix) := by
  have hunderscore : ∀ s : LibrarySymbol, '_' ∉ s.name.toList := by
    intro s
    cases s <;> decide
  refine h.append_of_head (by cases scope <;> decide) fun c hc s => ?_
  have hhead : scope.suffix.toList.head? = some '_' := by cases scope <;> decide
  rw [hhead, Option.mem_some_iff] at hc
  exact hc ▸ hunderscore s

theorem keptByEndings_symbolFree : KeptByEndings SymbolFree where
  suffix := SymbolFree.append_suffix
  number := SymbolFree.append_toString

/-- The names of quiet parameters in any scope. -/
theorem symbolFree_name_of_mem_nameParameters {scope : NameScope} {stem : String}
    (hstem : SymbolFree stem) {ps : List Parameter} (h : ∀ p ∈ ps, p.Quiet) {p : NamedParameter}
    (hp : p ∈ scope.nameParameters stem ps) : SymbolFree p.name :=
  keptByEndings_symbolFree.of_mem_nameParameters (fun q hq =>
    keptByEndings_symbolFree.of_nameOr hstem (.inr (h q hq _ q.name_mem_strings))) hp

/-! ## Hashes -/

theorem hexDigit_mem (n : Nat) : Keccak.hexDigit n ∈ "0123456789abcdef".toList := by
  rw [Keccak.hexDigit, List.getD_eq_getElem?_getD]
  cases h : "0123456789abcdef".toList[n]? with
  | none => exact (by decide : '0' ∈ "0123456789abcdef".toList)
  | some c => exact List.mem_of_getElem? h

theorem symbolFree_signatureHash (bytes : Nat) (name : String) (inputs : List Parameter) :
    SymbolFree (signatureHash bytes name inputs) := by
  refine .of_forall ("x0123456789abcdef".toList.contains ·) (by decide) fun c hc => ?_
  rw [signatureHash, Keccak.hexText, String.toList_append, List.mem_append, String.toList_ofList,
    String.toList_ofList, List.mem_flatMap] at hc
  rcases hc with hc | ⟨b, -, hc⟩
  · have hletter : ['0', 'x'] ⊆ "x0123456789abcdef".toList := by decide
    exact List.contains_iff_mem.mpr (hletter hc)
  · have hdigits : "0123456789abcdef".toList ⊆ "x0123456789abcdef".toList := by decide
    have hmem : c ∈ "0123456789abcdef".toList := by
      simp only [List.mem_cons, List.not_mem_nil, or_false] at hc
      rcases hc with rfl | rfl <;> exact hexDigit_mem _
    exact List.contains_iff_mem.mpr (hdigits hmem)

end AbiBindings
