import AbiBindings.Toml.Scalar
import AbiBindings.Toml.Table
import AbiBindings.Toml.Token

/-!
# Reading TOML documents

A document is a sequence of lines: headers, which name the table that the following lines belong
to, and keys with values. The reader takes one token at a time and keeps the values under way on a
stack. Lists may go over several lines, tables in braces may not. A value may lie inside at most
79 lists and tables in braces, and a key has at most 79 parts.
-/

namespace AbiBindings.Toml

/-- Where a key stands. -/
inductive KeyPlace where
  /-- Before a value. -/
  | line
  /-- In a header; `list` for one in double brackets. -/
  | header (list : Bool)
  /-- In a table in braces. -/
  | braces
  deriving DecidableEq

/-- A value under way. -/
inductive Frame where
  /-- The value of a key on its own line; the key's last part first. -/
  | line (key : List String)
  /-- A list, the last item first. -/
  | list (items : List Toml)
  /-- A table in braces, whose next value belongs to a key, the key's last part first. -/
  | braces (members : Members) (key : List String)

/-- What the reader expects next. -/
inductive Expect where
  /-- The beginning of a line. -/
  | line
  /-- What follows the first bracket of a header. -/
  | header
  /-- A part of a key whose parts so far are given, the last one first. A table in braces that has
  only just begun may also end. -/
  | keyPart (place : KeyPlace) (key : List String) (members : Members) (fresh : Bool)
  /-- What follows a part of a key. -/
  | keyEnd (place : KeyPlace) (key : List String) (members : Members)
  /-- The second closing bracket of a header in double brackets. -/
  | headerClose (key : List String)
  /-- Nothing but the end of the line. -/
  | lineEnd
  /-- A value; where `fresh`, a list may also end. -/
  | value (fresh : Bool)
  /-- More of a scalar value. -/
  | scalar (text : List Char)
  /-- The time that may follow a date and a space. -/
  | time (date : List Char)
  /-- What follows a complete value. -/
  | after (v : Toml)

/-- The reader between two tokens. -/
structure Reading where
  root : Members := []
  /-- The header that the current line belongs to. -/
  header : List String := []
  /-- The values under way, the innermost first. -/
  stack : List Frame := []
  expect : Expect := .line

/-- One level more than values may be nested, and one part more than a key may have. -/
def depthLimit : Nat := 80

namespace Reading

/-- Expect something else. -/
def expecting (r : Reading) (e : Expect) : Reading :=
  { r with expect := e }

/-! ## Keys -/

/-- The part of a key that a token is. -/
def keyPart? : Token → Option String
  | .quoted text false => some text
  | .run text =>
    if text.all fun c => c.isAlphanum || c == '_' || c == '-' then some (String.ofList text)
    else none
  | _ => none

/-- Take a key before a value. -/
def takeKey (r : Reading) (frame : Frame) (key : List String) : Except Fault Reading :=
  if key.length < depthLimit then .ok { r with stack := frame :: r.stack, expect := .value false }
  else .error .tooDeep

/-- Take a header. -/
def takeHeader (r : Reading) (list : Bool) (key : List String) : Except Fault Reading :=
  match key with
  | [] => .error .misplaced
  | last :: parents =>
    if key.length < depthLimit then do
      let change := if list then Members.append last else Members.define last
      return { r with
        root := ← r.root.within change parents.reverse
        header := key.reverse
        expect := .lineEnd }
    else .error .tooDeep

/-- Take what follows a part of a key. -/
def afterKeyPart (r : Reading) (place : KeyPlace) (key : List String) (members : Members) :
    Token → Except Fault Reading
  | .blank _ => .ok (r.expecting (.keyEnd place key members))
  | .punctuation '.' => .ok (r.expecting (.keyPart place key members false))
  | .punctuation '=' =>
    match place with
    | .line => r.takeKey (.line key) key
    | .braces => r.takeKey (.braces members key) key
    | .header _ => .error .misplaced
  | .punctuation ']' =>
    match place with
    | .header false => r.takeHeader false key
    | .header true => .ok (r.expecting (.headerClose key))
    | _ => .error .misplaced
  | _ => .error .misplaced

/-! ## Values -/

/-- Insert a value under a key whose last part comes first. -/
def insertAt (key : List String) (v : Toml) (members : Members) : Except Fault Members :=
  match key with
  | [] => .error .misplaced
  | last :: parents => members.insert last v parents.reverse

/-- Take what follows a complete value. -/
def afterValue (r : Reading) (v : Toml) (t : Token) : Except Fault Reading :=
  match t, r.stack with
  | .blank _, _ => .ok (r.expecting (.after v))
  | .lineEnd, [.line key] => do
    return { r with
      root := ← r.root.within (insertAt key v) r.header
      stack := []
      expect := .line }
  | .lineEnd, .list _ :: _ => .ok (r.expecting (.after v))
  | .punctuation ',', .list items :: outer =>
    .ok { r with stack := .list (v :: items) :: outer, expect := .value true }
  | .punctuation ']', .list items :: outer =>
    .ok { r with stack := outer, expect := .after (.array (v :: items).reverse) }
  | .punctuation ',', .braces members key :: outer => do
    return { r with
      stack := outer
      expect := .keyPart .braces [] (← insertAt key v members) false }
  | .punctuation '}', .braces members key :: outer => do
    return { r with
      stack := outer
      expect := .after (.table (finishMembers (← insertAt key v members))) }
  | _, _ => .error .misplaced

/-- Go into a list or a table in braces. The frame of the line does not count. -/
def enter (r : Reading) (c : Char) : Except Fault Reading :=
  if depthLimit ≤ r.stack.length then .error .tooDeep
  else if c = '[' then .ok { r with stack := .list [] :: r.stack, expect := .value true }
  else .ok (r.expecting (.keyPart .braces [] [] true))

/-- Take the first token of a value. -/
def beginValue (r : Reading) (fresh : Bool) (t : Token) : Except Fault Reading :=
  match t, r.stack with
  | .blank _, _ => .ok r
  | .lineEnd, .list _ :: _ => .ok r
  | .quoted text _, _ => .ok (r.expecting (.after (.string text)))
  | .run text, _ => .ok (r.expecting (.scalar text))
  | .punctuation ']', .list items :: outer =>
    if fresh then .ok { r with stack := outer, expect := .after (.array items.reverse) }
    else .error .misplaced
  | .punctuation '[', _ => r.enter '['
  | .punctuation '{', _ => r.enter '{'
  | _, _ => .error .misplaced

/-- Take a token while a scalar value is under way. -/
def inScalar (r : Reading) (text : List Char) (t : Token) : Except Fault Reading :=
  match t with
  | .run more => .ok (r.expecting (.scalar (text ++ more)))
  | .punctuation '.' => .ok (r.expecting (.scalar (text ++ ['.'])))
  | .blank true =>
    if isDate text then .ok (r.expecting (.time text))
    else do r.afterValue (← ofScalar text) t
  | _ => do r.afterValue (← ofScalar text) t

/-- Take one token. -/
def step (r : Reading) (t : Token) : Except Fault Reading :=
  match r.expect with
  | .line =>
    match t with
    | .lineEnd | .blank _ => .ok r
    | .punctuation '[' => .ok (r.expecting .header)
    | _ =>
      match keyPart? t with
      | some part => .ok (r.expecting (.keyEnd .line [part] []))
      | none => .error .misplaced
  | .header =>
    match t with
    | .punctuation '[' => .ok (r.expecting (.keyPart (.header true) [] [] false))
    | .blank _ => .ok (r.expecting (.keyPart (.header false) [] [] false))
    | _ =>
      match keyPart? t with
      | some part => .ok (r.expecting (.keyEnd (.header false) [part] []))
      | none => .error .misplaced
  | .keyPart place key members fresh =>
    match t with
    | .blank _ => .ok r
    | .punctuation '}' =>
      if fresh then .ok (r.expecting (.after (.table []))) else .error .misplaced
    | _ =>
      match keyPart? t with
      | some part => .ok (r.expecting (.keyEnd place (part :: key) members))
      | none => .error .misplaced
  | .keyEnd place key members => r.afterKeyPart place key members t
  | .headerClose key =>
    match t with
    | .punctuation ']' => r.takeHeader true key
    | _ => .error .misplaced
  | .lineEnd =>
    match t with
    | .lineEnd => .ok (r.expecting .line)
    | .blank _ => .ok r
    | _ => .error .misplaced
  | .value fresh => r.beginValue fresh t
  | .scalar text => r.inScalar text t
  | .time date =>
    match t with
    | .run more => .ok (r.expecting (.scalar (date ++ ' ' :: more)))
    | _ => do r.afterValue (← ofScalar date) t
  | .after v => r.afterValue v t

end Reading

/-- The table that a document says. -/
def parse (text : String) : Except Fault (List (String × Toml)) := do
  let s := match text.toList with
    | '\uFEFF' :: rest => rest
    | s => s
  let last ← (← tokens s).foldlM Reading.step {}
  match last.expect with
  | .line => return finishMembers last.root
  | _ => .error .endOfText

end AbiBindings.Toml
