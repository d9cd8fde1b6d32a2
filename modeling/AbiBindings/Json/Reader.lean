import AbiBindings.Json.Token

/-!
# Reading JSON texts

A text holds one value. The reader takes one token at a time and keeps the containers under way
on a stack; a container may lie inside at most 126 others.
-/

namespace AbiBindings.Json

/-- A container under way, its last part first. -/
inductive Frame where
  | array (items : List Json)
  /-- An object whose next value belongs to `key`. -/
  | object (members : List (String × Json)) (key : String)

/-- What the reader expects next. -/
inductive Expect where
  /-- A value. -/
  | value
  /-- A value or the end of an array that has no items yet. -/
  | firstItem
  /-- A key of an object with the given members. -/
  | key (members : List (String × Json))
  /-- A key or the end of an object that has no members yet. -/
  | firstKey
  /-- The colon behind a key. -/
  | colon (members : List (String × Json)) (key : String)
  /-- A comma or the end of the innermost container, which ends in the given value. -/
  | separator (last : Json)

/-- The reader between two tokens: the containers under way, the innermost first. -/
structure Reading where
  stack : List Frame := []
  expect : Expect := .value

/-- One container more than may lie inside one another. -/
def depthLimit : Nat := 128

/-- Go into a container. -/
def Reading.enter (r : Reading) (c : Char) : Except Fault Reading :=
  if c = '[' ∧ r.stack.length + 1 < depthLimit then .ok ⟨.array [] :: r.stack, .firstItem⟩
  else if c = '{' ∧ r.stack.length + 1 < depthLimit then .ok ⟨r.stack, .firstKey⟩
  else if c = '[' ∨ c = '{' then .error .tooDeep
  else .error .misplaced

/-- Take one token. -/
def Reading.step (r : Reading) (t : Token) : Except Fault Reading :=
  match r.expect, t with
  | .value, .scalar v => .ok { r with expect := .separator v }
  | .firstItem, .scalar v => .ok { r with expect := .separator v }
  | .value, .punctuation c => r.enter c
  | .firstItem, .punctuation c =>
    match c, r.stack with
    | ']', .array _ :: outer => .ok ⟨outer, .separator (.array [])⟩
    | c, _ => r.enter c
  | .firstKey, .punctuation '}' => .ok { r with expect := .separator (.object []) }
  | .firstKey, .scalar (.string key) => .ok { r with expect := .colon [] key }
  | .key members, .scalar (.string key) => .ok { r with expect := .colon members key }
  | .colon members key, .punctuation ':' => .ok ⟨.object members key :: r.stack, .value⟩
  | .separator last, .punctuation c =>
    match c, r.stack with
    | ',', .array items :: outer => .ok ⟨.array (last :: items) :: outer, .value⟩
    | ']', .array items :: outer => .ok ⟨outer, .separator (.array (last :: items).reverse)⟩
    | ',', .object members key :: outer => .ok ⟨outer, .key ((key, last) :: members)⟩
    | '}', .object members key :: outer =>
      .ok ⟨outer, .separator (.object ((key, last) :: members).reverse)⟩
    | _, _ => .error .misplaced
  | _, _ => .error .misplaced

/-- The value that a text holds. -/
def parse (text : String) : Except Fault Json := do
  let last ← (← tokens text.toList).foldlM Reading.step {}
  match last.stack, last.expect with
  | [], .separator v => return v
  | _, _ => .error .endOfText

end AbiBindings.Json
