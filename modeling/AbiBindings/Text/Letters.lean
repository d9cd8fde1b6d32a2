import AbiBindings.Text.Alphabetic
import AbiBindings.Text.Mark
import AbiBindings.Text.Numeric
import AbiBindings.Text.Recent

/-!
# Characters of words

Classes built from the properties of the tables: the alphanumeric characters, and the two classes
that patterns use, digits and the characters that make up words (letters, marks, digits,
connecting punctuation such as `_`, and the two characters that control joining).
-/

namespace AbiBindings.Text

/-- Connecting punctuation. -/
def connectorRanges : List (Nat × Nat) :=
  [(0x5F, 0x5F), (0x203F, 0x2040), (0x2054, 0x2054), (0xFE33, 0xFE34), (0xFE4D, 0xFE4F),
   (0xFF3F, 0xFF3F)]

/-- Connecting punctuation, the underscore among it. -/
def isConnector (c : Char) : Bool :=
  inRanges connectorRanges c.toNat

/-- The two characters that only control the joining of their neighbours. -/
def isJoinControl (c : Char) : Bool :=
  inRanges [(0x200C, 0x200D)] c.toNat

/-- Letters and numbers of any script. -/
def isAlphanumeric (c : Char) : Bool :=
  isAlphabetic c || isNumber c

/-- Characters that make up words. -/
def isWordChar (c : Char) : Bool :=
  !isRecent c
    && (isAlphabetic c || isMark c || isDecimalDigit c || isConnector c || isJoinControl c)

/-- Characters that patterns take for decimal digits. -/
def isPatternDigit (c : Char) : Bool :=
  !isRecent c && isDecimalDigit c

end AbiBindings.Text
