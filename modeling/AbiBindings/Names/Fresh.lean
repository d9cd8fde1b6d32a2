/-!
# Free names

The first of a sequence of candidates that is not taken. Among one candidate more than there are
taken names one is free whenever the candidates differ, so the search ends within that bound.
-/

namespace AbiBindings

/-- The first candidate that is not taken, looked for among the first `taken.length + 1`. -/
def firstFree (taken : List String) (candidate : Nat → String) : String :=
  candidate <| ((List.range (taken.length + 1)).find? fun k => !taken.contains (candidate k)).getD 0

/-- The sequence `base`, `base1`, `base2`, … -/
def numbered (base : String) : Nat → String
  | 0 => base
  | k + 1 => base ++ toString (k + 1)

/-- The first of `base`, `base1`, `base2`, … that is not taken. -/
def uniqueName (taken : List String) (base : String) : String :=
  firstFree taken (numbered base)

/-- Give each base a name of its own in turn; the names given are taken from then on. -/
def uniqueNames (taken : List String) : List String → List String
  | [] => []
  | base :: rest =>
    let name := uniqueName taken base
    name :: uniqueNames (taken ++ [name]) rest

end AbiBindings
