import AbiBindings.Proofs.Abi.Decomposition
import AbiBindings.Proofs.Abi.ElementaryNames
import AbiBindings.Proofs.Struct.DeclaredNames
import AbiBindings.Proofs.Struct.Rereading

/-! # Classes under declared names

The name of a struct is a word, and `$` is the one character of identifiers that words lack. So the
name that is read off a declaration ends in front of its first `$` (`structName?_of_declares`), and
the first struct that a registry defines gets the name that was read off as its class
(`head_of_define`). The struct of a function's outputs keeps its name exactly when that is a word
(`structName?_outputsParameter_iff`). -/

namespace AbiBindings
set_option autoImplicit false

/-! ## Characters -/

theorem Text.mem_of_inRanges {ranges : List (Nat × Nat)} {n : Nat} (h : inRanges ranges n = true) :
    n ∈ ranges.flatMap fun range => List.range' range.1 (range.2 + 1 - range.1) := by
  induction ranges with
  | nil => simp [inRanges] at h
  | cons range ranges ih =>
    rw [inRanges] at h
    split at h
    · simp at h
    · rw [List.flatMap_cons, List.mem_append]
      split at h
      · exact .inl (List.mem_range'_1.mpr (by omega))
      · exact .inr (ih h)

theorem Text.isBlank_of_isWordChar {c : Char} (h : isWordChar c = true) : isBlank c = false := by
  by_contra hblank
  have hlisted := mem_of_inRanges (Bool.not_eq_false _ ▸ hblank)
  have hall : (blankRanges.flatMap fun range => List.range' range.1 (range.2 + 1 - range.1)).all
      (fun n => !isWordChar (Char.ofNat n)) = true := by decide +kernel
  have hc := List.all_eq_true.mp hall _ hlisted
  rw [Char.ofNat_toNat, h] at hc
  exact Bool.false_ne_true hc

/-! ## Types of declared structs -/

/-- The name of a struct, behind the name of its library where it has one. -/
def qualifiedName : Option String → String → String
  | none, name => name
  | some library, name => library ++ "." ++ name

/-- The internal types of a struct: its qualified name behind the keyword, and any number of array
levels. -/
inductive DeclaredType (library? : Option String) (name : String) : String → Prop where
  | struct : DeclaredType library? name ("struct " ++ qualifiedName library? name)
  | array {t : String} {size : Option String} (ht : DeclaredType library? name t)
      (hsize : ∀ z ∈ size, '[' ∉ z.toList) :
      DeclaredType library? name (t ++ TypeShape.levelText size)

/-- The parameter's internal type is a struct that is declared under the name, in the library where
there is one. -/
structure Parameter.Declares (p : Parameter) (library? : Option String) (name : String) : Prop where
  library_identifier : ∀ l ∈ library?, IsIdentifier l
  name_identifier : IsIdentifier name
  declaredType : ∃ t ∈ p.internalType, DeclaredType library? name t

theorem isIdentifierChar_qualifiedName {library? : Option String} {name : String}
    (hl : ∀ l ∈ library?, IsIdentifier l) (hn : IsIdentifier name) :
    ∀ c ∈ (qualifiedName library? name).toList, Text.isIdentifierChar c = true ∨ c = '.' := by
  cases library? with
  | none => exact fun c hc => .inl (hn.2 c hc)
  | some l =>
    intro c hc
    simp only [qualifiedName, String.toList_append, List.mem_append] at hc
    rcases hc with (hc | hc) | hc
    · exact .inl ((hl l rfl).2 c hc)
    · exact .inr (by simpa using hc)
    · exact .inl (hn.2 c hc)

/-- Array levels come off a declared type one by one. -/
theorem DeclaredType.innermostOf {library? : Option String} {name t : String}
    (h : DeclaredType library? name t) (hl : ∀ l ∈ library?, IsIdentifier l)
    (hn : IsIdentifier name) :
    TypeText.innermostOf t.toList = "struct ".toList ++ (qualifiedName library? name).toList := by
  induction h with
  | struct =>
    have hclose : ']' ∉ "struct ".toList ++ (qualifiedName library? name).toList := by
      rw [List.mem_append, not_or]
      refine ⟨by decide, fun hmem => ?_⟩
      rcases isIdentifierChar_qualifiedName hl hn _ hmem with h | h
      · exact absurd h (by decide)
      · exact absurd h (by decide)
    rw [String.toList_append, TypeText.innermostOf_of_none (lastLevel?_eq_none hclose)]
  | array ht hsize ih =>
    rw [TypeText.innermostOf_of_some (TypeShape.lastLevel?_append_levelText _ hsize), ih]

/-! ## Reading a declared name -/

/-- What stands in front of the first `$` of a name. -/
def beforeDollar (name : String) : String :=
  String.ofList (name.toList.takeWhile (· != '$'))

/-- The word that is read off the declaration of a struct. A `$` in the name of the library ends
the reading there; the library's name is also read where `$` begins the struct's own name. -/
def declaredWord : Option String → String → String
  | none, name => beforeDollar name
  | some library, name =>
    if '$' ∈ library.toList ∨ beforeDollar name = "" then beforeDollar library
    else beforeDollar name

/-- The name that is read off the declaration of a struct, if there is any. -/
def readName? (library? : Option String) (name : String) : Option String :=
  if declaredWord library? name = "" then none else some (declaredWord library? name)

theorem beforeDollar_eq_self_iff {name : String} :
    beforeDollar name = name ↔ '$' ∉ name.toList := by
  rw [beforeDollar, ← String.toList_inj, String.toList_ofList, List.takeWhile_eq_self_iff]
  constructor
  · intro h hmem
    exact absurd (h _ hmem) (by decide)
  · intro h c hc
    have hne : c ≠ '$' := fun heq => h (heq ▸ hc)
    simpa using hne

theorem dollar_not_mem_beforeDollar (name : String) : '$' ∉ (beforeDollar name).toList := by
  intro hmem
  rw [beforeDollar, String.toList_ofList] at hmem
  exact absurd (List.all_eq_true.mp List.all_takeWhile _ hmem) (by decide)

theorem declaredWord_eq_self_iff {library? : Option String} {name : String} (hn : name ≠ "") :
    declaredWord library? name = name ↔
      '$' ∉ name.toList ∧ ∀ l ∈ library?, '$' ∈ l.toList → beforeDollar l = name := by
  cases library? with
  | none => simp [declaredWord, beforeDollar_eq_self_iff]
  | some l =>
    have hfree : beforeDollar l = name → '$' ∉ name.toList := by
      rintro rfl
      exact dollar_not_mem_beforeDollar l
    by_cases hl : '$' ∈ l.toList
    · simpa [declaredWord, hl] using hfree
    · by_cases hname : beforeDollar name = ""
      · -- the library's name is read, and the struct's own holds a `$`
        have hdollar : '$' ∈ name.toList := by
          by_contra h
          exact hn (beforeDollar_eq_self_iff.mpr h ▸ hname)
        simpa [declaredWord, hl, hname, hdollar] using mt hfree (not_not_intro hdollar)
      · simp [declaredWord, hl, hname, beforeDollar_eq_self_iff]

theorem readName?_eq_some_self_iff {library? : Option String} {name : String} (hn : name ≠ "") :
    readName? library? name = some name ↔
      '$' ∉ name.toList ∧ ∀ l ∈ library?, '$' ∈ l.toList → beforeDollar l = name := by
  rw [← declaredWord_eq_self_iff hn, readName?]
  split
  · rename_i hword
    simpa [hword] using hn.symm
  · simp

theorem exists_afterDollar (name : String) :
    ∃ rest, name.toList = (beforeDollar name).toList ++ rest ∧ ∀ c ∈ rest.head?, c = '$' := by
  refine ⟨name.toList.dropWhile (· != '$'), ?_, fun c hc => ?_⟩
  · rw [beforeDollar, String.toList_ofList, List.takeWhile_append_dropWhile]
  · have hstop := List.head?_dropWhile_not (· != '$') name.toList
    simpa [Option.mem_def.mp hc] using hstop

theorem IsIdentifier.isWordChar_beforeDollar {name : String} (h : IsIdentifier name) :
    ∀ c ∈ (beforeDollar name).toList, Text.isWordChar c = true := by
  intro c hc
  have hne : c ≠ '$' := fun heq => dollar_not_mem_beforeDollar name (heq ▸ hc)
  rw [beforeDollar, String.toList_ofList] at hc
  rw [Text.isWordChar_of_isIdentifierChar (h.2 c ((List.takeWhile_prefix _).subset hc))]
  simpa using hne

theorem nameAfterKeyword?_eq_none {s : List Char} (h : ∀ c ∈ s, Text.isBlank c = false) :
    nameAfterKeyword? s = none := by
  rw [nameAfterKeyword?]
  cases hrest : afterStem? "struct" s with
  | none => rfl
  | some rest =>
    have hs := afterStem?_eq_some_iff.mp hrest
    have hwords : rest.dropWhile Text.isBlank = rest := by
      rw [List.dropWhile_eq_self_iff]
      intro hlength
      have hmem : rest[0] ∈ s := hs ▸ List.mem_append_right _ (List.getElem_mem hlength)
      simpa using h _ hmem
    rw [Option.bind_some]
    simp [hwords]

theorem structNameIn?_eq_none {s : List Char} (h : ∀ c ∈ s, Text.isBlank c = false) :
    structNameIn? s = none := by
  induction s with
  | nil => rfl
  | cons c rest ih =>
    rw [structNameIn?, nameAfterKeyword?_eq_none h]
    exact ih fun d hd => h d (List.mem_cons_of_mem c hd)

/-- Behind the keyword and its space there is no other place where a name could be read. -/
theorem structNameIn?_append {s : List Char} (h : ∀ c ∈ s, Text.isBlank c = false) :
    structNameIn? ("struct ".toList ++ s) = nameAfterKeyword? ("struct ".toList ++ s) := by
  have hinside : structNameIn? ("truct ".toList ++ s) = structNameIn? s := rfl
  have hkeyword : "struct ".toList ++ s = 's' :: ("truct ".toList ++ s) := rfl
  rw [hkeyword, structNameIn?, hinside, structNameIn?_eq_none h, Option.orElse_eq_orElse,
    Option.orElse_eq_or, Option.or_none]

section Reading

variable {name : String} (hn : IsIdentifier name)
include hn

theorem takeWhile_identifier :
    name.toList.takeWhile Text.isWordChar = (beforeDollar name).toList := by
  obtain ⟨rest, hname, hrest⟩ := exists_afterDollar name
  rw [hname]
  refine (takeWhile_append_of_stop hn.isWordChar_beforeDollar fun c hc => ?_).1
  rw [hrest c hc]
  exact Text.isWordChar_of_lt_128 (by decide)

/-- Where the name breaks off, nothing behind it is read. -/
theorem nameAfterKeyword?_of_break {rest : List Char}
    (hblank : ∀ c ∈ (beforeDollar name).toList ++ rest, Text.isBlank c = false)
    (hrest : ∀ c ∈ rest.head?, c = '$') :
    (nameAfterKeyword? ("struct ".toList ++ ((beforeDollar name).toList ++ rest))).map
        String.ofList =
      if beforeDollar name = "" then none else some (beforeDollar name) := by
  have hdollar : Text.isWordChar '$' = false := Text.isWordChar_of_lt_128 (by decide)
  rw [nameAfterKeyword?_append hblank hn.isWordChar_beforeDollar fun c hc => hrest c hc ▸ hdollar,
    wordBehindPoint_eq_nil fun c hc => by simp [hrest c hc]]
  by_cases hword : beforeDollar name = ""
  · simp [hword]
  · simp [hword]

end Reading

theorem structNameIn?_qualifiedName {library? : Option String} {name : String}
    (hl : ∀ l ∈ library?, IsIdentifier l) (hn : IsIdentifier name) :
    (structNameIn? ("struct ".toList ++ (qualifiedName library? name).toList)).map String.ofList =
      readName? library? name := by
  have hblank : ∀ c ∈ (qualifiedName library? name).toList, Text.isBlank c = false := by
    intro c hc
    rcases isIdentifierChar_qualifiedName hl hn c hc with hc | rfl
    · exact Text.isBlank_of_isIdentifierChar hc
    · decide
  rw [structNameIn?_append hblank]
  cases library? with
  | none =>
    obtain ⟨rest, hname, hrest⟩ := exists_afterDollar name
    rw [qualifiedName, hname] at hblank ⊢
    exact nameAfterKeyword?_of_break hn hblank hrest
  | some l =>
    have hpath : (qualifiedName (some l) name).toList = l.toList ++ '.' :: name.toList := by
      simp [qualifiedName]
    rw [hpath] at hblank ⊢
    by_cases hdollar : '$' ∈ l.toList
    · -- the point is behind the `$`
      obtain ⟨rest, hlibrary, hrest⟩ := exists_afterDollar l
      have hne : rest ≠ [] := by
        rintro rfl
        rw [List.append_nil] at hlibrary
        exact dollar_not_mem_beforeDollar l (hlibrary ▸ hdollar)
      have hhead : ∀ c ∈ (rest ++ '.' :: name.toList).head?, c = '$' := by
        rwa [List.head?_append_of_ne_nil _ hne]
      have hread : declaredWord (some l) name = beforeDollar l := if_pos (.inl hdollar)
      rw [hlibrary, List.append_assoc] at hblank ⊢
      rw [nameAfterKeyword?_of_break (hl l rfl) hblank hhead, readName?, hread]
    · have hword : beforeDollar l = l := beforeDollar_eq_self_iff.mpr hdollar
      have hletters : ∀ c ∈ l.toList, Text.isWordChar c = true := by
        rw [← hword]
        exact (hl l rfl).isWordChar_beforeDollar
      have hpoint : ∀ c ∈ ('.' :: name.toList).head?, Text.isWordChar c = false :=
        fun c hc => Option.some.inj hc ▸ Text.isWordChar_of_lt_128 (by decide)
      rw [nameAfterKeyword?_append hblank hletters hpoint, wordBehindPoint, takeWhile_identifier hn,
        readName?, declaredWord, hword]
      have hne := (hl l rfl).ne_empty
      by_cases hname : beforeDollar name = ""
      · simp [hname, hne]
      · simp [hname, hne, hdollar]

theorem structName?_of_declares {p : Parameter} {library? : Option String} {name : String}
    (h : p.Declares library? name) : p.structName? = readName? library? name := by
  obtain ⟨t, ht, hdeclared⟩ := h.declaredType
  rw [Parameter.structName?, Option.mem_def.mp ht, Option.bind_some,
    hdeclared.innermostOf h.library_identifier h.name_identifier,
    structNameIn?_qualifiedName h.library_identifier h.name_identifier]

/-! ## The first struct of a registry -/

namespace StructRegistry

variable {r s : StructRegistry} {p : Parameter}

/-- A struct with components that comes before all others is the first to be defined. -/
theorem extends_define_registerAll (hr : r.definitions = []) (ht : p.isTuple = true)
    (hc : p.components ≠ []) {before : List Parameter}
    (hbefore : ∀ q ∈ before, q.isTuple = true → q.components = []) (after : List Parameter) :
    Extends (r.define p) (r.registerAll (before ++ p :: after)) := by
  have hskip : r.registerAll before = r :=
    registerAll_of_resolves fun q hq htuple hne => absurd (hbefore q hq htuple) hne
  have hlacks : r.lacks p = true := lacks_iff.mpr ⟨ht, hc, by simp [find?, ht, hr]⟩
  rw [registerAll_append, hskip, registerAll, register_of_lacks hlacks]
  exact (extends_registerAll _ _).trans (extends_registerAll _ _)

/-- The first definition is looked up for the struct that it was made for, whatever was defined
after it. -/
theorem head_of_define (hr : r.definitions = []) (ht : p.isTuple = true)
    (hs : Extends (r.define p) s) :
    let base := p.structName?.getD ("Tuple" ++ toString r.anonymous)
    s.definitions.head?.map StructDefinition.className = some (uniqueName r.taken base) ∧
      s.classFor? p = some (uniqueName r.taken base) := by
  obtain ⟨-, new, hdefinitions, -⟩ := hs
  intro base
  set d : StructDefinition := .ofComponents (uniqueName r.taken base) p.structName? p.components
    with hd
  have hfirst : s.definitions = d :: new := by
    rw [hdefinitions, define, hr]
    rfl
  have hname : d.structName = p.structName? := rfl
  have hfits : d.fits p.components = true := by
    rw [StructDefinition.fits_iff, hd, StructDefinition.parameters_ofComponents]
    exact .refl _
  have hfound : s.find? p = some d := by
    rw [find?, if_pos ht, hfirst]
    by_cases hnamed : p.structName?.isSome = true
    · simp [hnamed, hname, hfits]
    · simp [hnamed, hfits]
  rw [hfirst, classFor?, hfound]
  exact ⟨rfl, rfl⟩

end StructRegistry

/-! ## Structs of outputs -/

theorem structName?_outputsParameter_iff {f : ContractFunction} :
    f.outputsParameter.structName? = some (outputsStructName f.name) ↔
      ∀ c ∈ (outputsStructName f.name).toList, Text.isWordChar c = true := by
  constructor
  · intro h c hc
    obtain ⟨t, s, -, -, hstands⟩ := exists_standsIn_of_structName? h
    exact hstands.isWordChar hc
  · intro h
    exact structName?_outputsParameter fun c hc => ⟨h c hc, Text.isBlank_of_isWordChar (h c hc)⟩

theorem structName?_outputsParameter_of_isAscii {f : ContractFunction}
    (h : Text.IsAscii f.name.toList) :
    f.outputsParameter.structName? = some (outputsStructName f.name) :=
  structName?_outputsParameter fun _ hc =>
    Text.isWordChar_of_isStemChar (isStemChar_of_mem_outputsStructName h hc)

/-! ## Structs under their declared names -/

/-- A struct keeps the name that it is declared under, in whatever library and inside whatever array
levels, exactly as far as the name is a word: a `$` ends what is read, in the library's name too.
The first struct of a registry gets what was read as its class if it is not reserved, and is
numbered if nothing was read. The struct of a function's outputs has the name that it was made with
exactly when that is a word, as it is for a function with a name in ASCII. -/
theorem declared_words_name_structs {p : Parameter} {library? : Option String} {name : String}
    (h : p.Declares library? name) (f : ContractFunction) :
    p.structName? = readName? library? name ∧
    (p.structName? = some name ↔
      '$' ∉ name.toList ∧ ∀ l ∈ library?, '$' ∈ l.toList → beforeDollar l = name) ∧
    (∀ (reserved : List String) (before after : List Parameter),
      p.isTuple = true → p.components ≠ [] →
      (∀ q ∈ before, q.isTuple = true → q.components = []) →
      let chosen := (readName? library? name).getD "Tuple0"
      let r := (({} : StructRegistry).reserveAll reserved).registerAll (before ++ p :: after)
      chosen ∉ reserved →
        r.definitions.head?.map StructDefinition.className = some chosen ∧
          r.classFor? p = some chosen) ∧
    (f.outputsParameter.structName? = some (outputsStructName f.name) ↔
      ∀ c ∈ (outputsStructName f.name).toList, Text.isWordChar c = true) ∧
    (Text.IsAscii f.name.toList →
      f.outputsParameter.structName? = some (outputsStructName f.name)) := by
  have hread := structName?_of_declares h
  refine ⟨hread, ?_, ?_, structName?_outputsParameter_iff,
    structName?_outputsParameter_of_isAscii⟩
  · rw [hread]
    exact readName?_eq_some_self_iff h.name_identifier.ne_empty
  · intro reserved before after ht hc hbefore chosen r hfree
    have hempty : (({} : StructRegistry).reserveAll reserved).definitions = [] :=
      StructRegistry.definitions_reserveAll _ _
    have hfirst := StructRegistry.head_of_define hempty ht
      (StructRegistry.extends_define_registerAll hempty ht hc hbefore after)
    have hchosen : uniqueName (({} : StructRegistry).reserveAll reserved).taken chosen = chosen :=
      uniqueName_of_not_mem fun hmem =>
        hfree ((StructRegistry.mem_taken_reserveAll.mp hmem).resolve_left List.not_mem_nil)
    rw [hread, StructRegistry.anonymous_reserveAll] at hfirst
    exact hchosen ▸ hfirst

/-- The struct is found in its library and inside two array levels, behind parameters without a
struct; a second struct of its name has to give way. -/
theorem class_of_tier :
    let tier : Parameter :=
      { typeText := "tuple[2][]", internalType := some "struct Pool.Tier[2][]"
        components := [{ name := "rate", typeText := "uint24" }] }
    let fee : Parameter := { typeText := "uint256" }
    let other : Parameter :=
      { typeText := "tuple", internalType := some "struct Tier"
        components := [{ name := "open", typeText := "bool" }] }
    let rates : ContractFunction :=
      { name := "fee_rates", mutability := .view, inputs := [], outputs := [fee, fee] }
    let r := (({} : StructRegistry).reserveAll ["Pool", "Tier1"]).registerAll [fee, tier, other]
    tier.Declares (some "Pool") "Tier" ∧ tier.structName? = some "Tier" ∧
      r.classFor? tier = some "Tier" ∧ r.classFor? other = some "Tier2" ∧
      rates.outputsParameter.structName? = some "FeeRatesOutputs" := by
  intro tier fee other rates r
  have hpair : DeclaredType (some "Pool") "Tier" ("struct Pool.Tier" ++ TypeShape.levelText "2") :=
    .array .struct (by decide)
  have hlist : DeclaredType (some "Pool") "Tier"
      ("struct Pool.Tier[2]" ++ TypeShape.levelText none) := .array hpair (by simp)
  have hdeclares : tier.Declares (some "Pool") "Tier" :=
    ⟨by decide, by decide, "struct Pool.Tier[2][]", rfl, hlist⟩
  have houtputsName : outputsStructName rates.name = "FeeRatesOutputs" := by decide +kernel
  obtain ⟨-, hkept, hclass, -, houtputs⟩ := declared_words_name_structs hdeclares rates
  have hfee : ∀ q ∈ [fee], q.isTuple = true → q.components = [] := by simp [fee]
  refine ⟨hdeclares, hkept.mpr ⟨by decide, by simp⟩, ?_, by decide +kernel, ?_⟩
  · exact (hclass ["Pool", "Tier1"] [fee] [other] (by decide +kernel) (by simp [tier]) hfee
      (by decide +kernel)).2
  · rw [← houtputsName]
    exact houtputs (by decide)

/-- A `$` ends the name that is read, and the name of a function can hold a number that no word
holds. -/
theorem dollar_cuts_declared_name :
    let tier : Parameter :=
      { name := "tier", typeText := "tuple", internalType := some "struct Pool.Fee$Tier"
        components := [{ name := "rate", typeText := "uint256" }] }
    let area : ContractFunction :=
      { name := "area²", mutability := .view, inputs := []
        outputs := [{ typeText := "uint256" }, { typeText := "bool" }] }
    tier.Declares (some "Pool") "Fee$Tier" ∧ tier.structName? = some "Fee" ∧
      (({} : StructRegistry).registerAll [tier]).classFor? tier = some "Fee" ∧
      outputsStructName area.name = "Area²Outputs" ∧
      area.outputsParameter.structName? = some "Area" := by
  intro tier area
  have hdeclares : tier.Declares (some "Pool") "Fee$Tier" :=
    ⟨by decide, by decide, "struct Pool.Fee$Tier", rfl, .struct⟩
  exact ⟨hdeclares, by decide +kernel, by decide +kernel, by decide +kernel, by decide +kernel⟩

end AbiBindings
