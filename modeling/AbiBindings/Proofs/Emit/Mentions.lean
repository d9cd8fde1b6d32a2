import AbiBindings.Emit.LibrarySymbol
import AbiBindings.Proofs.Names.Fresh
import AbiBindings.Proofs.Text.Identifiers
import Mathlib.Data.List.Infix

/-! # Library symbols that a text mentions

A text mentions the library symbols among its identifiers (`mentioned`). Emitted texts are fixed
texts with holes, and a fixed text is set off from the holes around it: what the whole mentions is
read off part by part, from either end (`mentioned_lead`, `mentioned_join`, `mentioned_trail`).

What stands in the holes mentions nothing by itself. Names of an interface do not even hold the
name of a symbol somewhere inside (`SymbolFree`), and neither a suffix nor a number behind them can
complete one (`SymbolFree.append`). -/

namespace AbiBindings
set_option autoImplicit false

/-- The symbol that an identifier names. -/
def LibrarySymbol.ofWord? (w : List Char) : Option LibrarySymbol :=
  LibrarySymbol.all.find? (·.name == String.ofList w)

/-- The library symbols among the identifiers of a text, in order and with repetitions. -/
def mentionedIn (s : List Char) : List LibrarySymbol :=
  (Text.words s).filterMap LibrarySymbol.ofWord?

@[inherit_doc mentionedIn]
def mentioned (t : String) : List LibrarySymbol :=
  mentionedIn t.toList

namespace LibrarySymbol

theorem mem_all (s : LibrarySymbol) : s ∈ all := by
  cases s <;> decide

theorem ofWord?_name (s : LibrarySymbol) : ofWord? s.name.toList = some s := by
  rw [ofWord?, String.ofList_toList]
  cases s <;> rfl

theorem ofWord?_eq_some {w : List Char} {s : LibrarySymbol} :
    ofWord? w = some s ↔ w = s.name.toList := by
  constructor
  · intro h
    have hname : s.name = String.ofList w := by simpa using List.find?_some h
    rw [hname, String.toList_ofList]
  · rintro rfl
    exact ofWord?_name s

end LibrarySymbol

theorem mem_mentioned {s : LibrarySymbol} {t : String} :
    s ∈ mentioned t ↔ s.name.toList ∈ Text.words t.toList := by
  simp [mentioned, mentionedIn, LibrarySymbol.ofWord?_eq_some]

theorem mem_mentioned_iff_mem_identifiers {s : LibrarySymbol} {t : String} :
    s ∈ mentioned t ↔ s.name ∈ Text.identifiers t := by
  rw [mem_mentioned, Text.identifiers, List.mem_map]
  constructor
  · exact fun h => ⟨_, h, String.ofList_toList⟩
  · rintro ⟨w, hw, hname⟩
    rwa [← hname, String.toList_ofList]

@[simp] theorem mentioned_empty : mentioned "" = [] := by
  simp [mentioned, mentionedIn]

/-! ## Fixed texts around holes

Characters of a fixed text are compared by evaluation, which is quick on a list of characters and
slow where the list has to be read off a text. So the lemmas are about texts that are made of lists;
a text that is written out is one by definition. -/

/-- The text ends apart and mentions just these symbols. -/
def leads (s : List Char) (k : List LibrarySymbol) : Bool :=
  Text.endsApart s && mentionedIn s == k

/-- The text begins apart and mentions just these symbols. -/
def trails (s : List Char) (k : List LibrarySymbol) : Bool :=
  Text.startsApart s && mentionedIn s == k

/-- The text begins and ends apart and mentions just these symbols. -/
def joins (s : List Char) (k : List LibrarySymbol) : Bool :=
  Text.startsApart s && Text.endsApart s && mentionedIn s == k

theorem mentioned_ofList (s : List Char) : mentioned (String.ofList s) = mentionedIn s := by
  rw [mentioned, String.toList_ofList]

theorem mentioned_fixed {s : List Char} {k : List LibrarySymbol} (h : mentionedIn s = k) :
    mentioned (String.ofList s) = k :=
  (mentioned_ofList s).trans h

theorem mentioned_append_of_endsApart {a : String} (h : Text.endsApart a.toList = true)
    (b : String) : mentioned (a ++ b) = mentioned a ++ mentioned b := by
  rw [mentioned, mentionedIn, String.toList_append, Text.words_append_of_endsApart h,
    List.filterMap_append]
  rfl

theorem mentioned_append_of_startsApart (a : String) {b : String}
    (h : Text.startsApart b.toList = true) : mentioned (a ++ b) = mentioned a ++ mentioned b := by
  rw [mentioned, mentionedIn, String.toList_append, Text.words_append_of_startsApart _ h,
    List.filterMap_append]
  rfl

variable {a b : String} {s : List Char}

theorem mentioned_lead (k : List LibrarySymbol) (h : leads s k = true) :
    mentioned (String.ofList s ++ b) = k ++ mentioned b := by
  obtain ⟨hends, rfl⟩ : Text.endsApart s = true ∧ mentionedIn s = k := by
    simpa [leads] using h
  rw [mentioned_append_of_endsApart (by simpa using hends), mentioned_ofList]

theorem mentioned_trail (k : List LibrarySymbol) (h : trails s k = true) :
    mentioned (a ++ String.ofList s) = mentioned a ++ k := by
  obtain ⟨hstarts, rfl⟩ : Text.startsApart s = true ∧ mentionedIn s = k := by
    simpa [trails] using h
  rw [mentioned_append_of_startsApart a (by simpa using hstarts), mentioned_ofList]

theorem mentioned_join (k : List LibrarySymbol) (h : joins s k = true) :
    mentioned (a ++ String.ofList s ++ b) = mentioned a ++ k ++ mentioned b := by
  obtain ⟨⟨hstarts, hends⟩, rfl⟩ :
      (Text.startsApart s = true ∧ Text.endsApart s = true) ∧ mentionedIn s = k := by
    simpa [joins] using h
  have happ : Text.endsApart (a ++ String.ofList s).toList = true := by
    rw [String.toList_append, String.toList_ofList]
    exact Text.endsApart_append hends _
  rw [mentioned_append_of_endsApart happ,
    mentioned_append_of_startsApart a (by simpa using hstarts), mentioned_ofList]

theorem mentioned_intercalate (hsep : (!s.isEmpty && s.all Text.isSeparator) = true)
    (parts : List String) :
    mentioned ((String.ofList s).intercalate parts) = parts.flatMap mentioned := by
  obtain ⟨hne, hall⟩ : s ≠ [] ∧ ∀ c ∈ s, Text.isSeparator c = true := by
    simpa using hsep
  rw [mentioned, mentionedIn, String.toList_intercalate, String.toList_ofList,
    Text.words_intercalate hne hall, List.flatMap_map, List.filterMap_flatMap]
  rfl

theorem mentioned_intercalate_map {α : Type}
    (hsep : (!s.isEmpty && s.all Text.isSeparator) = true) {items : List α}
    {part : α → String} {k : α → List LibrarySymbol} (h : ∀ x ∈ items, mentioned (part x) = k x) :
    mentioned ((String.ofList s).intercalate (items.map part)) = items.flatMap k := by
  rw [mentioned_intercalate hsep, List.flatMap_map, List.flatMap_def, List.flatMap_def,
    List.map_congr_left h]

theorem toList_concat (parts : List String) :
    ("".intercalate parts).toList = (parts.map String.toList).flatten := by
  rw [String.toList_intercalate, String.toList_empty]
  induction parts.map String.toList with
  | nil => rfl
  | cons s l ih =>
    cases l with
    | nil => simp
    | cons t l =>
      rw [List.intercalate_cons_cons, ih, List.append_nil]
      rfl

/-- Parts that each begin apart can stand side by side behind any text. -/
theorem mentioned_append_concat {parts : List String}
    (h : ∀ t ∈ parts, Text.startsApart t.toList = true) (a : String) :
    mentioned (a ++ "".intercalate parts) = mentioned a ++ parts.flatMap mentioned := by
  rw [mentioned, mentionedIn, String.toList_append, toList_concat, Text.words_append_flatten,
    List.filterMap_append, List.flatMap_map, List.filterMap_flatMap]
  · rfl
  · intro s hs
    obtain ⟨t, ht, rfl⟩ := List.mem_map.mp hs
    exact h t ht

theorem mentioned_append_concat_map {α : Type} {items : List α} {part : α → String}
    {k : α → List LibrarySymbol} (hstarts : ∀ x, Text.startsApart (part x).toList = true)
    (h : ∀ x ∈ items, mentioned (part x) = k x) (a : String) :
    mentioned (a ++ "".intercalate (items.map part)) = mentioned a ++ items.flatMap k := by
  have hparts : ∀ t ∈ items.map part, Text.startsApart t.toList = true := by
    intro t ht
    obtain ⟨x, -, rfl⟩ := List.mem_map.mp ht
    exact hstarts x
  rw [mentioned_append_concat hparts, List.flatMap_map, List.flatMap_def, List.flatMap_def,
    List.map_congr_left h]

theorem startsApart_ofList_append (h : Text.startsApart s = true) (u : String) :
    Text.startsApart (String.ofList s ++ u).toList = true := by
  rw [String.toList_append, String.toList_ofList]
  exact Text.startsApart_append h _

theorem endsApart_append_ofList (h : Text.endsApart s = true) (t : String) :
    Text.endsApart (t ++ String.ofList s).toList = true := by
  rw [String.toList_append, String.toList_ofList]
  exact Text.endsApart_append h _

theorem startsApart_append {t : String} (h : Text.startsApart t.toList = true) (u : String) :
    Text.startsApart (t ++ u).toList = true := by
  rw [String.toList_append]
  exact Text.startsApart_append h _

theorem mentioned_trimEnd (t : String) : mentioned (Text.trimEnd t) = mentioned t := by
  rw [mentioned, mentionedIn, Text.words_trimEnd]
  rfl

/-! ## Texts that mention nothing -/

/-- The text does not hold the name of a library symbol anywhere. -/
def SymbolFree (t : String) : Prop :=
  ∀ s : LibrarySymbol, ¬ s.name.toList <:+: t.toList

instance (t : String) : Decidable (SymbolFree t) :=
  decidable_of_iff (∀ s ∈ LibrarySymbol.all, ¬ s.name.toList <:+: t.toList)
    ⟨fun h s => h s s.mem_all, fun h s _ => h s⟩

/-- A word of identifier characters mentions nothing unless it is the name of a symbol. -/
theorem mentioned_word {t : String} (hchars : ∀ c ∈ t.toList, Text.isIdentifierChar c = true)
    (hname : t ∉ LibrarySymbol.names) : mentioned t = [] := by
  refine List.eq_nil_iff_forall_not_mem.mpr fun s hs => hname ?_
  rw [mem_mentioned] at hs
  by_cases hnil : t.toList = []
  · rw [hnil] at hs
    simp at hs
  · rw [Text.words_eq_singleton hnil hchars, List.mem_singleton, String.toList_inj] at hs
    rw [← hs]
    exact List.mem_map_of_mem s.mem_all

namespace SymbolFree

theorem mentioned_eq_nil {t : String} (h : SymbolFree t) : mentioned t = [] :=
  List.eq_nil_iff_forall_not_mem.mpr fun s hs => h s (Text.infix_of_mem_words (mem_mentioned.mp hs))

theorem of_piece {t u : String} (h : SymbolFree u) (htu : t.toList <:+: u.toList) : SymbolFree t :=
  fun s hs => h s (hs.trans htu)

/-- Characters of a class that no symbol keeps to. -/
theorem of_forall {t : String} (p : Char → Bool)
    (hp : (LibrarySymbol.all.all fun s => s.name.toList.any (!p ·)) = true)
    (ht : ∀ c ∈ t.toList, p c = true) : SymbolFree t := by
  intro s hs
  obtain ⟨c, hc, hpc⟩ := List.any_eq_true.mp (List.all_eq_true.mp hp s s.mem_all)
  rw [ht c (hs.subset hc)] at hpc
  simp at hpc

theorem append {a b : String} (ha : SymbolFree a) (hb : SymbolFree b)
    (hborder : ∀ s : LibrarySymbol, ∀ w ≠ [], w <+: b.toList → ¬ w <:+ s.name.toList) :
    SymbolFree (a ++ b) := by
  intro s hs
  rw [String.toList_append, List.infix_append_iff_ne_nil] at hs
  rcases hs with hs | hs | ⟨front, w, -, hw, hname, -, hstart⟩
  · exact ha s hs
  · exact hb s hs
  · exact hborder s w hw hstart (hname ▸ List.suffix_append front w)

/-- The second text begins with a character that no symbol has. -/
theorem append_of_head {a b : String} (ha : SymbolFree a) (hb : SymbolFree b)
    (hhead : ∀ c ∈ b.toList.head?, ∀ s : LibrarySymbol, c ∉ s.name.toList) :
    SymbolFree (a ++ b) := by
  refine append ha hb fun s w hw hstart hsuffix => ?_
  obtain ⟨c, rest, rfl⟩ := List.exists_cons_of_ne_nil hw
  obtain ⟨more, hb⟩ := hstart
  exact hhead c (by rw [← hb]; rfl) s (hsuffix.subset List.mem_cons_self)

/-! ## Numbers and suffixes -/

theorem toString_nat (n : Nat) : SymbolFree (toString n) :=
  of_forall Char.isDigit (by decide) fun _ hc => isDigit_of_mem_toString hc

theorem append_toString {a : String} (ha : SymbolFree a) (n : Nat) :
    SymbolFree (a ++ toString n) := by
  refine ha.append_of_head (toString_nat n) fun c hc s hs => ?_
  have hdigit := isDigit_of_mem_toString (List.mem_of_mem_head? hc)
  have hname : (s.name.toList.all (!·.isDigit)) = true := by cases s <;> decide
  simpa [hdigit] using List.all_eq_true.mp hname c hs

end SymbolFree

-- Unfolded on a text that is known in part, `mentioned` starts to split it: lemmas only from here.
attribute [irreducible] mentioned

end AbiBindings
