import AbiBindings.Json.Value
import AbiBindings.Number.Digits

/-!
# Tokens of JSON texts

A text is cut into punctuation and scalar values by a scanner that takes one character at a time.
Numbers and words are collected as runs of the characters that can stand in them and judged when
the run ends. White space is the space, tab, carriage return and line feed.

Strings hold no bare control character; an escaped surrogate has to be followed by its partner;
numbers have no leading zero and lie within the range of 64-bit binary numbers.
-/

namespace AbiBindings.Json

/-- Why a text is no JSON text. -/
inductive Fault where
  | endOfText
  | unexpected (c : Char)
  | controlCharacter
  | badEscape
  | loneSurrogate
  | badWord (word : String)
  | numberOutOfRange
  | misplaced
  | tooDeep
  deriving DecidableEq

/-- The wording of a fault. -/
def Fault.message : Fault → String
  | endOfText => "the text ends too early"
  | unexpected c => "unexpected character " ++ String.singleton c
  | controlCharacter => "control character in a string"
  | badEscape => "invalid escape in a string"
  | loneSurrogate => "unpaired surrogate in a string"
  | badWord word => "neither a number nor a literal: " ++ word
  | numberOutOfRange => "number out of range"
  | misplaced => "value or punctuation in the wrong place"
  | tooDeep => "nested too deeply"

/-- A token: a punctuation character or a scalar value. -/
inductive Token where
  | punctuation (c : Char)
  | scalar (v : Json)

/-- The value of a run of characters. -/
def ofRun (run : List Char) : Except Fault Json :=
  if run = "null".toList then .ok null
  else if run = "true".toList then .ok (bool true)
  else if run = "false".toList then .ok (bool false)
  else
    match WrittenNumber.ofText? run with
    | none => .error (.badWord (String.ofList run))
    | some written =>
      match written.value? with
      | none => .error .numberOutOfRange
      | some n => .ok (number n)

/-! ## The scanner -/

/-- What the scanner is in the middle of. Texts under way have their last character first. -/
inductive Mode where
  /-- Between tokens. -/
  | between
  /-- In a number or a word. -/
  | run (text : List Char)
  /-- In a string; `high?` is a first surrogate that waits for its partner. -/
  | string (text : List Char) (high? : Option Nat)
  /-- In a string, after a backslash. -/
  | escape (text : List Char) (high? : Option Nat)
  /-- In a string, inside a code unit of which `left` digits are still to come. -/
  | codeUnit (text : List Char) (high? : Option Nat) (left value : Nat)

/-- The scanner's mode and the tokens found so far, the last one first. -/
structure Scan where
  mode : Mode := .between
  tokens : List Token := []

/-- White space between tokens. -/
def isSpace (c : Char) : Bool :=
  c == ' ' || c == '\t' || c == '\r' || c == '\n'

/-- The characters of numbers and words. -/
def isRunChar (c : Char) : Bool :=
  c.isAlphanum || c == '-' || c == '+' || c == '.'

/-- The characters that are tokens by themselves. -/
def isPunctuation (c : Char) : Bool :=
  c == '[' || c == ']' || c == '{' || c == '}' || c == ',' || c == ':'

/-- The character for a letter behind a backslash. -/
def escaped? : Char → Option Char
  | '"' => some '"'
  | '\\' => some '\\'
  | '/' => some '/'
  | 'b' => some '\x08'
  | 'f' => some '\x0c'
  | 'n' => some '\n'
  | 'r' => some '\r'
  | 't' => some '\t'
  | _ => none

/-- Go on after a complete code unit. -/
def Mode.afterCodeUnit (text : List Char) (high? : Option Nat) (unit : Nat) : Except Fault Mode :=
  let isHigh := decide (0xD800 ≤ unit ∧ unit < 0xDC00)
  let isLow := decide (0xDC00 ≤ unit ∧ unit < 0xE000)
  match high? with
  | some high =>
    if isLow then
      .ok (.string (Char.ofNat (0x10000 + (high - 0xD800) * 0x400 + (unit - 0xDC00)) :: text) none)
    else .error .loneSurrogate
  | none =>
    if isHigh then .ok (.string text (some unit))
    else if isLow then .error .loneSurrogate
    else .ok (.string (Char.ofNat unit :: text) none)

/-- Take one character between tokens. -/
def Scan.start (tokens : List Token) (c : Char) : Except Fault Scan :=
  if isSpace c then .ok ⟨.between, tokens⟩
  else if isPunctuation c then .ok ⟨.between, .punctuation c :: tokens⟩
  else if c = '"' then .ok ⟨.string [] none, tokens⟩
  else if isRunChar c then .ok ⟨.run [c], tokens⟩
  else .error (.unexpected c)

/-- Take one character. -/
def Scan.step (s : Scan) (c : Char) : Except Fault Scan :=
  match s.mode with
  | .between => Scan.start s.tokens c
  | .run text =>
    if isRunChar c then .ok ⟨.run (c :: text), s.tokens⟩
    else do Scan.start (.scalar (← ofRun text.reverse) :: s.tokens) c
  | .string text high? =>
    if c = '\\' then .ok ⟨.escape text high?, s.tokens⟩
    else if high?.isSome then .error .loneSurrogate
    else if c = '"' then
      .ok ⟨.between, .scalar (.string (String.ofList text.reverse)) :: s.tokens⟩
    else if c < ' ' then .error .controlCharacter
    else .ok ⟨.string (c :: text) none, s.tokens⟩
  | .escape text high? =>
    if c = 'u' then .ok ⟨.codeUnit text high? 4 0, s.tokens⟩
    else if high?.isSome then .error .loneSurrogate
    else
      match escaped? c with
      | some d => .ok ⟨.string (d :: text) none, s.tokens⟩
      | none => .error .badEscape
  | .codeUnit text high? left value =>
    match hexValue? c with
    | none => .error .badEscape
    | some digit =>
      let value := 16 * value + digit
      if left ≤ 1 then do return ⟨← Mode.afterCodeUnit text high? value, s.tokens⟩
      else .ok ⟨.codeUnit text high? (left - 1) value, s.tokens⟩

/-- The tokens of a text. -/
def tokens (s : List Char) : Except Fault (List Token) := do
  let last ← s.foldlM Scan.step {}
  match last.mode with
  | .between => return last.tokens.reverse
  | .run text => return (.scalar (← ofRun text.reverse) :: last.tokens).reverse
  | _ => .error .endOfText

end AbiBindings.Json
