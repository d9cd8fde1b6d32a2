import AbiBindings.Text.ClusterBreak

/-!
# User-perceived characters

A text of letters, numbers and underscores is cut into clusters, each of which a reader takes for
one character: a letter with what extends it, or the parts of a Hangul syllable. The rules for
line breaks, emoji sequences and flags are left out, since no such character is in those texts.
-/

namespace AbiBindings.Text

/-- What a character can be within a Hangul syllable. -/
inductive HangulPart where
  /-- A leading consonant. -/
  | lead
  /-- A vowel, or a syllable that ends in its vowel. -/
  | vowel (syllable : Bool)
  /-- A trailing consonant, or a syllable that ends in one. -/
  | tail (syllable : Bool)

/-- The part a character plays in Hangul syllables, if it plays one. -/
def hangulPart? (c : Char) : Option HangulPart :=
  let n := c.toNat
  if n < 0x1100 then none
  else if n ≤ 0x115F ∨ (0xA960 ≤ n ∧ n ≤ 0xA97C) then some .lead
  else if n ≤ 0x11A7 ∨ (0xD7B0 ≤ n ∧ n ≤ 0xD7C6) then some (.vowel false)
  else if n ≤ 0x11FF ∨ (0xD7CB ≤ n ∧ n ≤ 0xD7FB) then some (.tail false)
  else if 0xAC00 ≤ n ∧ n ≤ 0xD7A3 then
    if (n - 0xAC00) % 28 = 0 then some (.vowel true) else some (.tail true)
  else none

/-- Whether two neighbouring parts belong to one syllable. -/
def HangulPart.joins : HangulPart → HangulPart → Bool
  | .lead, .lead => true
  | .lead, .vowel _ => true
  | .lead, .tail syllable => syllable
  | .vowel _, .vowel syllable => !syllable
  | .vowel _, .tail syllable => !syllable
  | .tail _, .tail syllable => !syllable
  | _, _ => false

/-- Whether a character belongs to the same cluster as the one before it. -/
def joinsCluster (before c : Char) : Bool :=
  isExtender c || isSpacingMark c || isPrepended before ||
    (match hangulPart? before, hangulPart? c with
    | some a, some b => a.joins b
    | _, _ => false)

/-- The clusters of a text, in order. -/
def clusters : List Char → List (List Char)
  | [] => []
  | c :: rest =>
    match clusters rest with
    | (d :: ds) :: more =>
      if joinsCluster c d then (c :: d :: ds) :: more else [c] :: (d :: ds) :: more
    | _ => [[c]]

end AbiBindings.Text
