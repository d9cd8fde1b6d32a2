import AbiBindings.Proofs.Abi.Levels
import AbiBindings.Proofs.Names.Identifiers
import AbiBindings.Proofs.Text.PascalCase
import AbiBindings.Struct.Declared
import Mathlib.Data.List.Chain
import Mathlib.Data.List.Find
import Mathlib.Data.List.TakeWhile

/-! # Names that structs are declared under

A struct's name is read off the internal type behind white space or a point (`StandsIn`). Where no
digit stands there, as in the types of structs (`IsStructType.digitsInside`), the name is an
identifier (`isIdentifier_of_structName?`). It can be shorter than the one that is written, because
`$` ends it.

The struct of a function's outputs is named after the function in Pascal case, which leaves out `_`
and `$`. So the first letter or digit of the function's name comes first, and the name of the struct
is an identifier unless that is a digit (`isIdentifier_outputsStructName_iff`). -/

namespace AbiBindings
set_option autoImplicit false

/-! ## Where a name begins -/

/-- Whether a name can begin behind the character. -/
def precedesName (c : Char) : Bool :=
  Text.isBlank c || c == '.'

/-- No digit stands where a name can begin. -/
def DigitsInside (s : List Char) : Prop :=
  s.IsChain fun b c => precedesName b = true → c.isDigit = false

theorem DigitsInside.append {s t : List Char} (hs : DigitsInside s) (ht : DigitsInside t)
    (hhead : ∀ c ∈ t.head?, c.isDigit = false) : DigitsInside (s ++ t) :=
  List.IsChain.append hs ht fun _ _ c hc _ => hhead c hc

theorem DigitsInside.concat {s : List Char} (hs : DigitsInside s) {c : Char}
    (hc : c.isDigit = false) : DigitsInside (s ++ [c]) :=
  hs.append (.singleton c) (by simpa using hc)

theorem digitsInside_of_forall {s : List Char} (h : ∀ c ∈ s, precedesName c = false) :
    DigitsInside s := by
  induction s with
  | nil => exact .nil
  | cons c rest ih =>
    refine List.isChain_cons.mpr ⟨fun d _ hc => ?_, ih fun d hd => h d (List.mem_cons_of_mem c hd)⟩
    simp [h c List.mem_cons_self] at hc

theorem Text.isBlank_of_isIdentifierChar {c : Char} (h : isIdentifierChar c = true) :
    isBlank c = false := by
  by_contra hblank
  have := isSeparator_of_isBlank (by simpa using hblank)
  simp [isSeparator, h] at this

theorem precedesName_of_isIdentifierChar {c : Char} (h : Text.isIdentifierChar c = true) :
    precedesName c = false := by
  have hpoint : c ≠ '.' := by
    rintro rfl
    exact absurd h (by decide)
  simp [precedesName, Text.isBlank_of_isIdentifierChar h, hpoint]

/-! ## Reading a name off -/

/-- A name that is read off a text is the run of word characters behind white space or a point. -/
structure StandsIn (w s : List Char) : Prop where
  ne_nil : w ≠ []
  place : ∃ before b tail, s = before ++ b :: tail ∧ precedesName b = true ∧
    w = tail.takeWhile Text.isWordChar

theorem StandsIn.subset {w s : List Char} (h : StandsIn w s) : w ⊆ s := by
  obtain ⟨before, b, tail, rfl, -, rfl⟩ := h.place
  refine List.subset_append_of_subset_right _ (List.subset_cons_of_subset b ?_)
  exact (List.takeWhile_prefix _).subset

theorem StandsIn.isWordChar {w s : List Char} (h : StandsIn w s) {c : Char} (hc : c ∈ w) :
    Text.isWordChar c = true := by
  obtain ⟨before, b, tail, -, -, rfl⟩ := h.place
  simpa using List.all_eq_true.mp List.all_takeWhile c hc

theorem StandsIn.isDigit_head {w s : List Char} (h : StandsIn w s) (hs : DigitsInside s) {c : Char}
    (hc : w.head? = some c) : c.isDigit = false := by
  obtain ⟨before, b, tail, rfl, hb, rfl⟩ := h.place
  cases tail with
  | nil => simp at hc
  | cons d tail =>
    have hd : d = c := by
      rw [List.takeWhile_cons] at hc
      split at hc
      · simpa using hc
      · simp at hc
    have hchain : DigitsInside (b :: d :: tail) := hs.right_of_append
    exact hd ▸ hchain.rel hb

theorem standsIn_of_nameAfterKeyword? {s w : List Char} (h : nameAfterKeyword? s = some w) :
    StandsIn w s := by
  obtain ⟨rest, hrest, h⟩ := Option.bind_eq_some_iff.mp h
  obtain ⟨keyword, hs⟩ : ∃ keyword, s = keyword ++ rest := by
    rw [afterStem?] at hrest
    split at hrest
    · obtain rfl : s.drop "struct".length = rest := by simpa using hrest
      exact ⟨_, (List.take_append_drop _ s).symm⟩
    · simp at hrest
  have hblanks := List.takeWhile_append_dropWhile (p := Text.isBlank) (l := rest)
  dsimp only at h
  split at h
  · simp at h
  · rename_i hnamed
    obtain ⟨hlength, hfirst⟩ := not_or.mp hnamed
    -- the white space behind the keyword ends with a character of its own
    have hfirst : StandsIn ((rest.dropWhile Text.isBlank).takeWhile Text.isWordChar) s := by
      refine ⟨by simpa [List.isEmpty_iff] using hfirst, ?_⟩
      rcases List.eq_nil_or_concat (rest.takeWhile Text.isBlank) with hnil | ⟨blanks, b, hconcat⟩
      · rw [hnil, List.nil_append] at hblanks
        exact absurd (congrArg List.length hblanks) hlength
      · have hb : Text.isBlank b = true := by
          have hmem : b ∈ rest.takeWhile Text.isBlank := by simp [hconcat]
          simpa using List.all_eq_true.mp List.all_takeWhile b hmem
        rw [hconcat, List.concat_eq_append, List.append_assoc] at hblanks
        refine ⟨keyword ++ blanks, b, _, ?_, by simp [precedesName, hb], rfl⟩
        rw [hs, List.append_assoc]
        exact congrArg (keyword ++ ·) hblanks.symm
    split at h
    · rename_i more hmore
      split at h
      · exact Option.some.inj h ▸ hfirst
      · rename_i hsecond
        refine Option.some.inj h ▸ ⟨by simpa [List.isEmpty_iff] using hsecond, ?_⟩
        have hwords := List.takeWhile_append_dropWhile (p := Text.isWordChar)
          (l := rest.dropWhile Text.isBlank)
        refine ⟨keyword ++ rest.takeWhile Text.isBlank
          ++ (rest.dropWhile Text.isBlank).takeWhile Text.isWordChar, '.', more, ?_, by decide, rfl⟩
        rw [hs, ← hmore, List.append_assoc, List.append_assoc, hwords, hblanks]
    · rw [List.isEmpty_nil, if_pos rfl] at h
      exact Option.some.inj h ▸ hfirst

theorem standsIn_of_structNameIn? {s w : List Char} (h : structNameIn? s = some w) :
    StandsIn w s := by
  induction s with
  | nil => simp [structNameIn?] at h
  | cons c rest ih =>
    rw [structNameIn?] at h
    cases hname : nameAfterKeyword? (c :: rest) with
    | some w' =>
      obtain rfl : w' = w := by simpa [hname] using h
      exact standsIn_of_nameAfterKeyword? hname
    | none =>
      obtain ⟨hne, before, b, tail, rfl, hb, hw⟩ := ih (by simpa [hname] using h)
      exact ⟨hne, c :: before, b, tail, rfl, hb, hw⟩

theorem innermostOf_prefix (s : List Char) : TypeText.innermostOf s <+: s := by
  fun_induction TypeText.innermostOf s with
  | case1 s element size h ih =>
    rw [TypeText.eq_of_lastLevel? h, List.append_assoc]
    exact ih.trans (List.prefix_append _ _)
  | case2 s h => exact List.prefix_rfl

theorem exists_standsIn_of_structName? {p : Parameter} {n : String} (h : p.structName? = some n) :
    ∃ t s, p.internalType = some t ∧ s <+: t.toList ∧ StandsIn n.toList s := by
  obtain ⟨t, ht, hn⟩ := Option.bind_eq_some_iff.mp h
  obtain ⟨w, hw, rfl⟩ := Option.map_eq_some_iff.mp hn
  refine ⟨t, _, ht, innermostOf_prefix t.toList, ?_⟩
  rw [String.toList_ofList]
  exact standsIn_of_structNameIn? hw

theorem isIdentifierChar_of_structName? {p : Parameter}
    (hascii : ∀ t ∈ p.internalType, Text.IsAscii t.toList) {n : String}
    (h : p.structName? = some n) : ∀ c ∈ n.toList, Text.isIdentifierChar c = true := by
  obtain ⟨t, s, ht, hstart, hstands⟩ := exists_standsIn_of_structName? h
  exact fun c hc => Text.isIdentifierChar_of_isWordChar
    (hascii t ht c (hstart.subset (hstands.subset hc))) (hstands.isWordChar hc)

theorem isIdentifier_of_structName? {p : Parameter}
    (h : ∀ t ∈ p.internalType, Text.IsAscii t.toList ∧ DigitsInside t.toList) {n : String}
    (hn : p.structName? = some n) : IsIdentifier n := by
  obtain ⟨t, s, ht, ⟨rest, hrest⟩, hstands⟩ := exists_standsIn_of_structName? hn
  obtain ⟨c, hc⟩ := Option.ne_none_iff_exists'.mp (mt List.head?_eq_none_iff.mp hstands.ne_nil)
  have hinside : DigitsInside s := by
    have hdigits := (h t ht).2
    rw [← hrest] at hdigits
    exact hdigits.left_of_append
  exact .of_head (isIdentifierChar_of_structName? (fun t ht => (h t ht).1) hn) hc
    (hstands.isDigit_head hinside hc)

/-! ## Types of structs -/

/-- An internal type of a struct: the keyword and the struct's name, that of its library in front
where it has one, and any number of array levels behind. -/
inductive IsStructType : String → Prop where
  | plain {n : String} (hn : IsIdentifier n) : IsStructType ("struct " ++ n)
  | inLibrary {l n : String} (hl : IsIdentifier l) (hn : IsIdentifier n) :
      IsStructType ("struct " ++ l ++ "." ++ n)
  | array {t size : String} (ht : IsStructType t) (hsize : ∀ c ∈ size.toList, c.isDigit = true) :
      IsStructType (t ++ ("[" ++ size ++ "]"))

theorem IsIdentifier.isAscii {t : String} (h : IsIdentifier t) : Text.IsAscii t.toList :=
  fun c hc => by have := Text.toNat_of_isIdentifierChar (h.2 c hc); omega

theorem IsIdentifier.digitsInside_append {n : String} (hn : IsIdentifier n) {s : List Char}
    (hs : DigitsInside s) : DigitsInside (s ++ n.toList) := by
  obtain ⟨c, hc, hdigit⟩ := hn.exists_head
  refine hs.append (digitsInside_of_forall fun d hd => ?_) (by simpa [hc] using hdigit)
  exact precedesName_of_isIdentifierChar (hn.2 d hd)

theorem IsStructType.isAscii {t : String} (h : IsStructType t) : Text.IsAscii t.toList := by
  induction h with
  | plain hn =>
    rw [String.toList_append]
    exact .append (.ofList rfl) hn.isAscii
  | inLibrary hl hn =>
    simp only [String.toList_append]
    exact .append (.append (.append (.ofList rfl) hl.isAscii) (.ofList rfl)) hn.isAscii
  | array ht hsize ih =>
    simp only [String.toList_append]
    refine ih.append (.append (.append (.ofList rfl) fun c hc => ?_) (.ofList rfl))
    have := Text.toNat_of_isIdentifierChar (isIdentifierChar_of_isDigit (hsize c hc))
    omega

theorem IsStructType.digitsInside {t : String} (h : IsStructType t) : DigitsInside t.toList := by
  have hkeyword : DigitsInside "struct ".toList := by
    have hword : "struct".toList.all (fun c => !precedesName c) = true := by decide
    have hinside : DigitsInside "struct".toList :=
      digitsInside_of_forall fun c hc => by simpa using List.all_eq_true.mp hword c hc
    exact hinside.concat (c := ' ') (by decide)
  induction h with
  | plain hn =>
    rw [String.toList_append]
    exact hn.digitsInside_append hkeyword
  | inLibrary hl hn =>
    simp only [String.toList_append]
    have hlibrary := hl.digitsInside_append hkeyword
    exact hn.digitsInside_append (hlibrary.concat (c := '.') (by decide))
  | @array t size ht hsize ih =>
    have hlevel : ∀ c ∈ ("[" ++ size ++ "]").toList, precedesName c = false := by
      intro c hc
      simp only [String.toList_append, List.mem_append] at hc
      rcases hc with (hc | hc) | hc
      · obtain rfl : c = '[' := by simpa using hc
        decide
      · exact precedesName_of_isIdentifierChar (isIdentifierChar_of_isDigit (hsize c hc))
      · obtain rfl : c = ']' := by simpa using hc
        decide
    rw [String.toList_append]
    exact ih.append (digitsInside_of_forall hlevel) (by simp)

/-! ## Behind the keyword -/

theorem takeWhile_append_of_stop {p : Char → Bool} {first rest : List Char}
    (hfirst : ∀ c ∈ first, p c = true) (hrest : ∀ c ∈ rest.head?, p c = false) :
    (first ++ rest).takeWhile p = first ∧ (first ++ rest).dropWhile p = rest := by
  rw [List.takeWhile_append_of_pos hfirst, List.dropWhile_append_of_pos hfirst]
  cases rest with
  | nil => simp
  | cons c rest => simp [hrest c rfl]

/-- The word behind a point, where the text begins with one. -/
def wordBehindPoint : List Char → List Char
  | '.' :: more => more.takeWhile Text.isWordChar
  | _ => []

theorem nameAfterKeyword?_append {first rest : List Char}
    (hblank : ∀ c ∈ first ++ rest, Text.isBlank c = false)
    (hfirst : ∀ c ∈ first, Text.isWordChar c = true)
    (hrest : ∀ c ∈ rest.head?, Text.isWordChar c = false) :
    nameAfterKeyword? ("struct ".toList ++ (first ++ rest)) =
      if first.isEmpty then none
      else if (wordBehindPoint rest).isEmpty then some first
      else some (wordBehindPoint rest) := by
  have hkeyword : afterStem? "struct" ("struct ".toList ++ (first ++ rest)) =
      some (' ' :: (first ++ rest)) := rfl
  have hspace : Text.isBlank ' ' = true := by decide
  have hwords : (' ' :: (first ++ rest)).dropWhile Text.isBlank = first ++ rest := by
    rw [List.dropWhile_cons_of_pos hspace, List.dropWhile_eq_self_iff]
    intro hlength
    simpa using hblank _ (List.getElem_mem hlength)
  have hlength : (first ++ rest).length ≠ (' ' :: (first ++ rest)).length := by simp
  obtain ⟨htake, hdrop⟩ := takeWhile_append_of_stop hfirst hrest
  rw [nameAfterKeyword?, hkeyword, Option.bind_some]
  simp only [hwords, htake, hdrop, hlength, false_or]
  rfl

theorem wordBehindPoint_eq_nil {rest : List Char} (h : ∀ c ∈ rest.head?, c ≠ '.') :
    wordBehindPoint rest = [] := by
  unfold wordBehindPoint
  split
  · exact absurd rfl (h '.' rfl)
  · rfl

theorem structNameIn?_of_nameAfterKeyword? {s w : List Char} (h : nameAfterKeyword? s = some w) :
    structNameIn? s = some w := by
  cases s with
  | nil => exact absurd h nofun
  | cons c rest =>
    rw [structNameIn?, h]
    rfl

theorem structNameIn?_keyword {w : List Char} (hne : w ≠ [])
    (hword : ∀ c ∈ w, Text.isWordChar c = true ∧ Text.isBlank c = false) :
    structNameIn? ("struct ".toList ++ w) = some w := by
  have hblank : ∀ c ∈ w ++ [], Text.isBlank c = false := by
    rw [List.append_nil]
    exact fun c hc => (hword c hc).2
  have hread := nameAfterKeyword?_append hblank (fun c hc => (hword c hc).1) (by simp)
  have hsome : w.isEmpty = false := by simpa using hne
  rw [List.append_nil, hsome] at hread
  exact structNameIn?_of_nameAfterKeyword? hread

/-! ## Structs of outputs -/

theorem lastLevel?_eq_none {s : List Char} (h : ']' ∉ s) : TypeText.lastLevel? s = none := by
  unfold TypeText.lastLevel?
  split
  · rename_i rest hs
    exact absurd (List.mem_reverse.mp (hs ▸ List.mem_cons_self)) h
  · rfl

/-- The struct of a function's outputs has the name that it was made with. -/
theorem structName?_outputsParameter {f : ContractFunction}
    (hword : ∀ c ∈ (outputsStructName f.name).toList,
      Text.isWordChar c = true ∧ Text.isBlank c = false) :
    f.outputsParameter.structName? = some (outputsStructName f.name) := by
  have hne : (outputsStructName f.name).toList ≠ [] := by simp [outputsStructName]
  have hclose : ']' ∉ ("struct " ++ outputsStructName f.name).toList := by
    rw [String.toList_append, List.mem_append, not_or]
    have hmark : Text.isWordChar ']' = false := Text.isWordChar_of_lt_128 (by decide)
    exact ⟨by decide, fun hmem => Bool.false_ne_true (hmark ▸ (hword _ hmem).1)⟩
  rw [Parameter.structName?, ContractFunction.outputsParameter, Option.bind_some,
    TypeText.innermostOf_of_none (lastLevel?_eq_none hclose), String.toList_append,
    structNameIn?_keyword hne hword, Option.map_some, String.ofList_toList]

/-! ## Names of outputs -/

/-- The characters of Pascal-case names. -/
def Text.isStemChar (c : Char) : Bool :=
  c.isAlphanum || c == '_'

theorem Text.isIdentifierChar_of_isStemChar {c : Char} (h : isStemChar c = true) :
    isIdentifierChar c = true := by
  rw [isIdentifierChar]
  rw [isStemChar] at h
  rw [h, Bool.true_or]

theorem Text.lt_128_of_isStemChar {c : Char} (h : isStemChar c = true) : c.toNat < 128 := by
  have := toNat_of_isIdentifierChar (isIdentifierChar_of_isStemChar h)
  omega

theorem Text.isWordChar_of_isStemChar {c : Char} (h : isStemChar c = true) :
    isWordChar c = true ∧ isBlank c = false := by
  have hchar := isIdentifierChar_of_isStemChar h
  have hdollar : c ≠ '$' := by
    rintro rfl
    exact absurd h (by decide)
  exact ⟨by simp [isWordChar_of_isIdentifierChar hchar, hdollar], isBlank_of_isIdentifierChar hchar⟩

theorem Text.isStemChar_cased {c : Char} (h : isStemChar c = true) :
    isStemChar c.toUpper = true ∧ isStemChar c.toLower = true := by
  have hall : (!isStemChar c || isStemChar c.toUpper && isStemChar c.toLower) = true :=
    of_lt_128 (p := fun c => !isStemChar c || isStemChar c.toUpper && isStemChar c.toLower)
      (by decide +kernel) (lt_128_of_isStemChar h)
  simpa [h] using hall

theorem Text.isDigit_toUpper {c : Char} (hc : c.toNat < 128) : c.toUpper.isDigit = c.isDigit := by
  simpa using of_lt_128 (p := fun c => c.toUpper.isDigit == c.isDigit) (by decide +kernel) hc

/-- What a name keeps on its way into Pascal case. -/
def outputsStem (function : String) : List Char :=
  function.toList.filter fun c => Text.isAlphanumeric c || c == '_'

/-- Whether the first letter or digit of a name is a digit. -/
def digitComesFirst (name : String) : Bool :=
  (name.toList.find? Char.isAlphanum).any Char.isDigit

section Outputs

variable {function : String}

theorem isStemChar_of_mem_outputsStem (h : Text.IsAscii function.toList) {c : Char}
    (hc : c ∈ outputsStem function) : Text.isStemChar c = true := by
  obtain ⟨hmem, hkept⟩ := List.mem_filter.mp hc
  have hall : (!(Text.isAlphanumeric c || c == '_') || Text.isStemChar c) = true :=
    Text.of_lt_128 (p := fun c => !(Text.isAlphanumeric c || c == '_') || Text.isStemChar c)
      (by decide +kernel) (h c hmem)
  simpa [hkept] using hall

theorem isStemChar_of_mem_pascalCase (h : Text.IsAscii function.toList) {c : Char}
    (hc : c ∈ Text.pascalCase (outputsStem function)) : Text.isStemChar c = true := by
  have hascii : Text.IsAscii (outputsStem function) :=
    h.of_subset (List.filter_subset_self _)
  obtain ⟨d, hd, rfl | rfl⟩ := Text.mem_pascalCase hascii hc
  · exact (Text.isStemChar_cased (isStemChar_of_mem_outputsStem h hd)).1
  · exact (Text.isStemChar_cased (isStemChar_of_mem_outputsStem h hd)).2

theorem head?_pascalCase_outputsStem (h : IsIdentifier function) :
    (Text.pascalCase (outputsStem function)).head? =
      (function.toList.find? Char.isAlphanum).map Char.toUpper := by
  have hascii : Text.IsAscii (outputsStem function) :=
    h.isAscii.of_subset (List.filter_subset_self _)
  rw [Text.head?_pascalCase hascii, outputsStem, List.find?_filter, List.find?_congr fun c hc => ?_]
  have hletter : ((Text.isAlphanumeric c || c == '_') && !Text.isSeparatorCluster [c])
      = c.isAlphanum := eq_of_beq <|
    Text.of_lt_128 (p := fun c => ((Text.isAlphanumeric c || c == '_')
      && !Text.isSeparatorCluster [c]) == c.isAlphanum) (by decide +kernel) (h.isAscii c hc)
  rw [← hletter, Bool.decide_and, Bool.decide_eq_true, Bool.decide_eq_true]

theorem isStemChar_of_mem_outputsStructName (h : Text.IsAscii function.toList) {c : Char}
    (hc : c ∈ (outputsStructName function).toList) : Text.isStemChar c = true := by
  rw [outputsStructName, String.toList_append, List.mem_append] at hc
  rcases hc with hc | hc
  · split at hc
    · have hdefault : "UnnamedFunction".toList.all Text.isStemChar = true := by decide
      exact List.all_eq_true.mp hdefault c hc
    · rw [String.toList_ofList] at hc
      exact isStemChar_of_mem_pascalCase h hc
  · have hending : "Outputs".toList.all Text.isStemChar = true := by decide
    exact List.all_eq_true.mp hending c hc

theorem isIdentifier_outputsStructName_iff (h : IsIdentifier function) :
    IsIdentifier (outputsStructName function) ↔ digitComesFirst function = false := by
  have hname : outputsStructName function =
      (if (Text.pascalCase (outputsStem function)).isEmpty then "UnnamedFunction"
        else String.ofList (Text.pascalCase (outputsStem function))) ++ "Outputs" := rfl
  have hhead := head?_pascalCase_outputsStem h
  cases hstem : Text.pascalCase (outputsStem function) with
  | nil =>
    rw [hstem, List.head?_nil] at hhead
    have hdefault : IsIdentifier ("UnnamedFunction" ++ "Outputs") := by decide
    rw [hname, hstem, List.isEmpty_nil, if_pos rfl, digitComesFirst,
      Option.map_eq_none_iff.mp hhead.symm]
    exact iff_of_true hdefault rfl
  | cons d rest =>
    rw [hstem, List.head?_cons] at hhead
    obtain ⟨c, hc, hupper⟩ := Option.map_eq_some_iff.mp hhead.symm
    have hdigit : d.isDigit = c.isDigit :=
      hupper ▸ Text.isDigit_toUpper (h.isAscii c (List.mem_of_find?_eq_some hc))
    have hfirst : (outputsStructName function).toList.head? = some d := by
      simp [hname, hstem]
    rw [digitComesFirst, hc, Option.any_some, ← hdigit]
    constructor
    · intro hidentifier
      obtain ⟨e, he, hedigit⟩ := hidentifier.exists_head
      obtain rfl : d = e := Option.some.inj (hfirst.symm.trans he)
      exact hedigit
    · exact IsIdentifier.of_head (fun e he => Text.isIdentifierChar_of_isStemChar
        (isStemChar_of_mem_outputsStructName h.isAscii he)) hfirst

end Outputs

end AbiBindings
