import AbiBindings.Text.CasedLetters
import AbiBindings.Text.CaseTables

/-!
# Upper and lower case

Case mapping of whole texts by the full mappings, in which one character may become several (`ß`
gives `SS`). The capital sigma is the one letter whose lower-case form depends on its place: it is
`ς` at the end of a word and `σ` elsewhere.
-/

namespace AbiBindings.Text

/-- The image of a code point under the rows of a case table; itself where no row holds it. -/
def imageInRuns : List (Nat × Nat × Nat × Nat) → Nat → Nat
  | [], n => n
  | (first, last, step, image) :: rest, n =>
    if n < first then n
    else if n ≤ last ∧ (n - first) % step = 0 then image + (n - first)
    else imageInRuns rest n

/-- The image of one character under a case mapping given by its two tables. -/
def caseImage (runs : List (Nat × Nat × Nat × Nat)) (sequences : List (Nat × List Nat))
    (c : Char) : List Char :=
  match sequences.lookup c.toNat with
  | some image => image.map Char.ofNat
  | none => [Char.ofNat (imageInRuns runs c.toNat)]

/-- The upper-case form of a text. -/
def upperCase (s : List Char) : List Char :=
  s.flatMap (caseImage upperRuns upperSequences)

/-- Whether the first character that is not passed over has a case. -/
def startsCased (s : List Char) : Bool :=
  match s.dropWhile isCaseIgnorable with
  | [] => false
  | c :: _ => isCased c

/-- Lower case of the rest of a text, given the characters before it, the nearest first. -/
def lowerCaseAfter (before : List Char) : List Char → List Char
  | [] => []
  | c :: rest =>
    let image :=
      if c = 'Σ' then
        if startsCased before && !startsCased rest then ['ς'] else ['σ']
      else caseImage lowerRuns lowerSequences c
    image ++ lowerCaseAfter (c :: before) rest

/-- The lower-case form of a text. -/
def lowerCase (s : List Char) : List Char :=
  lowerCaseAfter [] s

end AbiBindings.Text
