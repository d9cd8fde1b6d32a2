import AbiBindings.Emit.Template
import AbiBindings.Proofs.Emit.Mentions

/-! # What a filled template mentions

A template is fenced when every fixed text ends apart and the one behind a slot begins apart too.
Whatever is put into the slots of a fenced template, the filled text mentions the symbols of the
fixed texts and those of the slots (`mem_mentioned_fill`). The three templates are fenced. -/

namespace AbiBindings
namespace Template
set_option autoImplicit false

/-- Whether a fixed text can stand there and mentions just these symbols. -/
def fences (afterSlot : Bool) (s : List Char) (k : List LibrarySymbol) : Bool :=
  if afterSlot then joins s k else leads s k

/-- The parts are fenced and their fixed texts mention just these symbols, given whether a slot
comes before. -/
inductive FencedAfter : Bool → List Piece → List LibrarySymbol → Prop
  | nil {afterSlot : Bool} : FencedAfter afterSlot [] []
  | text {afterSlot : Bool} {s : List Char} {rest : List Piece} {more : List LibrarySymbol}
      (k : List LibrarySymbol) (h : fences afterSlot s k = true)
      (hrest : FencedAfter false rest more) :
      FencedAfter afterSlot (.text (String.ofList s) :: rest) (k ++ more)
  | slot {s : Slot} {rest : List Piece} {k : List LibrarySymbol}
      (hrest : FencedAfter true rest k) : FencedAfter false (.slot s :: rest) k

/-- The fixed texts of the template set its slots off from each other and mention these symbols. -/
def Fenced (t : Template) (k : List LibrarySymbol) : Prop :=
  FencedAfter false t.pieces k

theorem concat_cons (s : String) (parts : List String) :
    "".intercalate (s :: parts) = s ++ "".intercalate parts := by
  rw [← String.toList_inj, toList_concat, String.toList_append, toList_concat]
  rfl

theorem leads_of_fences {afterSlot : Bool} {s : List Char} {k : List LibrarySymbol}
    (h : fences afterSlot s k = true) : leads s k = true := by
  cases afterSlot with
  | false => exact h
  | true =>
    simp only [fences, joins, if_true, Bool.and_eq_true] at h
    rw [leads, Bool.and_eq_true]
    exact ⟨h.1.2, h.2⟩

theorem FencedAfter.startsApart {pieces : List Piece} {k : List LibrarySymbol}
    (h : FencedAfter true pieces k) (hne : pieces ≠ []) (value : Slot → String) :
    Text.startsApart ("".intercalate (pieces.map (pieceText value))).toList = true := by
  cases h with
  | nil => exact absurd rfl hne
  | text k hs hrest =>
    simp only [fences, joins, if_true, Bool.and_eq_true] at hs
    rw [List.map_cons, concat_cons]
    exact startsApart_ofList_append hs.1.1 _

theorem FencedAfter.mem_mentioned {pieces : List Piece} {afterSlot : Bool}
    {k : List LibrarySymbol} (h : FencedAfter afterSlot pieces k) (value : Slot → String)
    {x : LibrarySymbol} :
    x ∈ mentioned ("".intercalate (pieces.map (pieceText value))) ↔
      x ∈ k ∨ ∃ s, Piece.slot s ∈ pieces ∧ x ∈ mentioned (value s) := by
  induction h with
  | nil => simp
  | text k hs hrest ih =>
    rw [List.map_cons, concat_cons, pieceText, mentioned_lead k (leads_of_fences hs),
      List.mem_append, List.mem_append, ih, or_assoc]
    simp
  | @slot s rest k hrest ih =>
    -- what stands behind the slot begins apart, so no identifier runs out of it
    have happ : mentioned (value s ++ "".intercalate (rest.map (pieceText value))) =
        mentioned (value s) ++ mentioned ("".intercalate (rest.map (pieceText value))) := by
      by_cases hne : rest = []
      · simp [hne]
      · exact mentioned_append_of_startsApart _ (hrest.startsApart hne value)
    rw [List.map_cons, concat_cons, pieceText, happ, List.mem_append, ih]
    simp only [List.mem_cons, Piece.slot.injEq, or_and_right, exists_or, exists_eq_left]
    exact or_left_comm

theorem mem_slots {t : Template} {s : Slot} : s ∈ t.slots ↔ Piece.slot s ∈ t.pieces := by
  rw [slots, List.mem_filterMap]
  constructor
  · rintro ⟨piece, hpiece, hs⟩
    cases piece with
    | text l => simp at hs
    | slot s' =>
      obtain rfl : s' = s := by simpa using hs
      exact hpiece
  · exact fun h => ⟨_, h, rfl⟩

/-- A filled template mentions what its fixed texts and the texts in its slots mention. -/
theorem mem_mentioned_fill {t : Template} {k : List LibrarySymbol} (h : t.Fenced k)
    (value : Slot → String) {x : LibrarySymbol} :
    x ∈ mentioned (t.fill value) ↔ x ∈ k ∨ ∃ s ∈ t.slots, x ∈ mentioned (value s) := by
  rw [fill, mentioned_trimEnd, FencedAfter.mem_mentioned h]
  exact or_congr_right (exists_congr fun s => and_congr_left fun _ => mem_slots.symm)

/-! ## The templates -/

theorem fenced_contractClass :
    contractClass.Fenced [.address, .chainId, .tokenAmount, .address, .chainId, .tokenAmount] :=
  .text [] rfl <| .slot <| .text [] rfl <| .text [.address] rfl <| .text [.chainId] rfl <|
  .text [] rfl <| .text [.tokenAmount] rfl <| .text [] rfl <| .text [.address, .chainId] rfl <|
  .text [.tokenAmount] rfl <| .text [] rfl <| .text [] rfl <| .text [] rfl <| .text [] rfl <|
  .text [] rfl <| .slot <| .text [] rfl .nil

theorem fenced_structClass : structClass.Fenced [.parseCsv, .encodeParam] :=
  .text [] rfl <| .slot <| .text [] rfl <| .slot <| .text [] rfl <| .text [] rfl <| .slot <|
  .text [] rfl <| .slot <| .text [] rfl <| .text [] rfl <| .slot <| .text [] rfl <|
  .text [.parseCsv] rfl <| .text [] rfl <| .slot <| .text [] rfl <| .slot <| .text [] rfl <|
  .text [] rfl <| .slot <| .text [] rfl <| .slot <| .text [] rfl <|
  .text [.encodeParam] rfl <| .slot <| .text [] rfl .nil

theorem fenced_eventClass : eventClass.Fenced [] :=
  .text [] rfl <| .slot <| .text [] rfl <| .slot <| .text [] rfl <| .text [] rfl <| .slot <|
  .text [] rfl <| .slot <| .text [] rfl <| .text [] rfl <| .slot <| .text [] rfl <| .slot <|
  .text [] rfl <| .text [] rfl <| .slot <| .text [] rfl <| .slot <| .text [] rfl .nil

end Template
end AbiBindings
