import AbiBindings.Text.Casing
import AbiBindings.Text.Cluster

/-!
# Pascal case

A name is cut into words at `_`, `-` and space, where a lower-case character meets an upper-case
one, where a letter meets a digit, and before the last capital of a run that goes on in lower
case. Characters are user-perceived ones here, and only the ten ASCII digits are digits. Each word
gets a capital first code point and lower case for the rest, and the words are joined.
-/

namespace AbiBindings.Text

/-- Whether a cluster is a capital that has a lower-case form. -/
def isUpperCluster (g : List Char) : Bool :=
  upperCase g != lowerCase g && g == upperCase g

/-- Whether a cluster is a small letter that has an upper-case form. -/
def isLowerCluster (g : List Char) : Bool :=
  upperCase g != lowerCase g && g == lowerCase g

/-- Whether a cluster is made of ASCII digits. -/
def isDigitCluster (g : List Char) : Bool :=
  g.all Char.isDigit

/-- Whether a cluster separates words and belongs to none. -/
def isSeparatorCluster (g : List Char) : Bool :=
  g == ['_'] || g == ['-'] || g == [' ']

/-- Whether a new word begins at `g`, which stands between `before` and `after?`. -/
def startsWord (before g : List Char) (after? : Option (List Char)) : Bool :=
  (isLowerCluster before && isUpperCluster g)
    || (isDigitCluster before && (isUpperCluster g || isLowerCluster g))
    || ((isUpperCluster before || isLowerCluster before) && isDigitCluster g)
    || (isUpperCluster before && isUpperCluster g && after?.any isLowerCluster)

/-- The words of the clusters that follow `before?`, where `word` is the one under way, its last
cluster first. -/
def wordsAfter (before? : Option (List Char)) (word : List (List Char)) :
    List (List Char) → List (List (List Char))
  | [] => [word.reverse]
  | g :: rest =>
    if isSeparatorCluster g then word.reverse :: wordsAfter (some g) [] rest
    else if before?.any (startsWord · g rest.head?) then
      word.reverse :: wordsAfter (some g) [g] rest
    else wordsAfter (some g) (g :: word) rest

/-- A word with a capital first code point and the rest in lower case. -/
def capitalize : List Char → List Char
  | [] => []
  | c :: rest => upperCase [c] ++ lowerCase rest

/-- The Pascal-case form of a text. -/
def pascalCase (s : List Char) : List Char :=
  (wordsAfter none [] (clusters s)).flatMap fun word => capitalize word.flatten

end AbiBindings.Text
