import AbiBindings.Number.Digits
import AbiBindings.Toml.Value

/-!
# Tokens of TOML documents

A document is cut into tokens by a scanner that takes one character at a time. Comments are
dropped; blanks and line ends are tokens, because they separate the parts of a line. A run is made
of the characters that bare keys, numbers and dates are made of, apart from the point.

A line ends in a line feed, which a carriage return may precede; inside strings both forms become
a line feed. Strings over several lines begin and end with three quotes, of which up to two more
may belong to the text.
-/

namespace AbiBindings.Toml

/-- A token. -/
inductive Token where
  | lineEnd
  /-- Blanks within a line; `single` for exactly one space. -/
  | blank (single : Bool)
  | punctuation (c : Char)
  | run (text : List Char)
  /-- A string in quotes; `multiline` for one in triple quotes. -/
  | quoted (text : String) (multiline : Bool)

/-- The two kinds of quotes. -/
inductive Quote where
  /-- Double quotes, between which a backslash begins an escape. -/
  | basic
  /-- Single quotes, between which every character stands for itself. -/
  | literal
  deriving DecidableEq

/-- The quote character. -/
def Quote.char : Quote → Char
  | basic => '"'
  | literal => '\''

/-- What the scanner is in the middle of. Texts under way have their last character first. -/
inductive Mode where
  /-- Between tokens. -/
  | between
  | comment
  /-- Behind a carriage return, which has to be followed by a line feed. -/
  | lineFeed
  | blank (single : Bool)
  | run (text : List Char)
  /-- Behind one or two quotes that begin a string. -/
  | opening (q : Quote) (two : Bool)
  /-- In a string on one line. -/
  | string (q : Quote) (text : List Char)
  /-- In a string over several lines, behind some quotes that may end it. -/
  | block (q : Quote) (text : List Char) (quotes : Nat)
  /-- In a string over several lines, behind a carriage return. -/
  | blockLineFeed (q : Quote) (text : List Char)
  /-- At the beginning of a string over several lines, where one line end is dropped. -/
  | blockStart (q : Quote) (carriageReturn : Bool)
  /-- Behind a backslash. -/
  | escape (multiline : Bool) (text : List Char)
  /-- In a code point of which `left` digits are still to come. -/
  | codePoint (multiline : Bool) (text : List Char) (left value : Nat)
  /-- Behind a backslash that ends a line; `broken` once the line has ended. -/
  | fold (text : List Char) (broken carriageReturn : Bool)

/-- The scanner's mode and the tokens found so far, the last one first. -/
structure Scan where
  mode : Mode := .between
  tokens : List Token := []

/-- Spaces and tabs. -/
def isBlank (c : Char) : Bool :=
  c == ' ' || c == '\t'

/-- The characters of runs. -/
def isRunChar (c : Char) : Bool :=
  c.isAlphanum || c == '_' || c == '-' || c == '+' || c == ':'

/-- The characters that are tokens by themselves. -/
def isPunctuation (c : Char) : Bool :=
  c == '=' || c == '.' || c == ',' || c == '[' || c == ']' || c == '{' || c == '}'

/-- Whether a character may stand in a comment or a string: no control character but the tab. -/
def isPlain (c : Char) : Bool :=
  c == '\t' || (' ' ≤ c && c != '\x7f')

/-- The character for a letter behind a backslash. -/
def escaped? : Char → Option Char
  | '"' => some '"'
  | '\\' => some '\\'
  | 'b' => some '\x08'
  | 'f' => some '\x0c'
  | 'n' => some '\n'
  | 'r' => some '\r'
  | 't' => some '\t'
  | _ => none

/-- Go on in a string with escapes. -/
def Mode.basic (multiline : Bool) (text : List Char) : Mode :=
  if multiline then .block .basic text 0 else .string .basic text

/-- A complete string. -/
def quotedToken (text : List Char) (multiline : Bool) : Token :=
  .quoted (String.ofList text.reverse) multiline

/-- Take one character between tokens. -/
def Scan.start (tokens : List Token) (c : Char) : Except Fault Scan :=
  if c = '\n' then .ok ⟨.between, .lineEnd :: tokens⟩
  else if c = '\r' then .ok ⟨.lineFeed, tokens⟩
  else if c = '#' then .ok ⟨.comment, tokens⟩
  else if isBlank c then .ok ⟨.blank (c == ' '), tokens⟩
  else if isPunctuation c then .ok ⟨.between, .punctuation c :: tokens⟩
  else if isRunChar c then .ok ⟨.run [c], tokens⟩
  else if c = '"' then .ok ⟨.opening .basic false, tokens⟩
  else if c = '\'' then .ok ⟨.opening .literal false, tokens⟩
  else .error (.unexpected c)

/-- Take one character of a string on one line. -/
def Scan.inString (tokens : List Token) (q : Quote) (text : List Char) (c : Char) :
    Except Fault Scan :=
  if c = q.char then .ok ⟨.between, quotedToken text false :: tokens⟩
  else if q = .basic ∧ c = '\\' then .ok ⟨.escape false text, tokens⟩
  else if isPlain c then .ok ⟨.string q (c :: text), tokens⟩
  else .error (.unexpected c)

/-- Take one character of a string over several lines that is no quote. -/
def Scan.inBlock (tokens : List Token) (q : Quote) (text : List Char) (c : Char) :
    Except Fault Scan :=
  if c = '\n' then .ok ⟨.block q ('\n' :: text) 0, tokens⟩
  else if c = '\r' then .ok ⟨.blockLineFeed q text, tokens⟩
  else if q = .basic ∧ c = '\\' then .ok ⟨.escape true text, tokens⟩
  else if isPlain c then .ok ⟨.block q (c :: text) 0, tokens⟩
  else .error (.unexpected c)

/-- Take one character of a string over several lines, behind some quotes: three of them or more
end the string, and a fifth ends it at once. -/
def Scan.afterQuotes (tokens : List Token) (q : Quote) (text : List Char) (quotes : Nat)
    (c : Char) : Except Fault Scan :=
  let withQuotes := List.replicate (if 3 ≤ quotes then quotes - 3 else quotes) q.char ++ text
  if c = q.char then
    if 4 ≤ quotes then .ok ⟨.between, quotedToken (q.char :: withQuotes) true :: tokens⟩
    else .ok ⟨.block q text (quotes + 1), tokens⟩
  else if 3 ≤ quotes then Scan.start (quotedToken withQuotes true :: tokens) c
  else Scan.inBlock tokens q withQuotes c

/-- Take one character behind a backslash. -/
def Scan.inEscape (tokens : List Token) (multiline : Bool) (text : List Char) (c : Char) :
    Except Fault Scan :=
  if c = 'u' then .ok ⟨.codePoint multiline text 4 0, tokens⟩
  else if c = 'U' then .ok ⟨.codePoint multiline text 8 0, tokens⟩
  else if multiline && isBlank c then .ok ⟨.fold text false false, tokens⟩
  else if multiline && c == '\n' then .ok ⟨.fold text true false, tokens⟩
  else if multiline && c == '\r' then .ok ⟨.fold text false true, tokens⟩
  else
    match escaped? c with
    | some d => .ok ⟨.basic multiline (d :: text), tokens⟩
    | none => .error .badEscape

/-- Take one digit of a code point, which in the end must not be a surrogate. -/
def Scan.inCodePoint (tokens : List Token) (multiline : Bool) (text : List Char)
    (left value : Nat) (c : Char) : Except Fault Scan :=
  match hexValue? c with
  | none => .error .badEscape
  | some digit =>
    let value := 16 * value + digit
    if 1 < left then .ok ⟨.codePoint multiline text (left - 1) value, tokens⟩
    else if value.isValidChar then .ok ⟨.basic multiline (Char.ofNat value :: text), tokens⟩
    else .error .badEscape

/-- Take one character behind a backslash that ends a line: white space is dropped up to the next
character that is none. -/
def Scan.inFold (tokens : List Token) (text : List Char) (broken carriageReturn : Bool)
    (c : Char) : Except Fault Scan :=
  if c = '\n' then .ok ⟨.fold text true false, tokens⟩
  else if carriageReturn then .error (.unexpected '\r')
  else if c = '\r' then .ok ⟨.fold text broken true, tokens⟩
  else if isBlank c then .ok ⟨.fold text broken false, tokens⟩
  else if !broken then .error .badEscape
  else Scan.afterQuotes tokens .basic text 0 c

/-- Take one character. -/
def Scan.step (s : Scan) (c : Char) : Except Fault Scan :=
  match s.mode with
  | .between => Scan.start s.tokens c
  | .comment =>
    if c = '\n' ∨ c = '\r' then Scan.start s.tokens c
    else if isPlain c then .ok s
    else .error (.unexpected c)
  | .lineFeed => if c = '\n' then Scan.start s.tokens c else .error (.unexpected '\r')
  | .blank single =>
    if isBlank c then .ok ⟨.blank false, s.tokens⟩
    else Scan.start (.blank single :: s.tokens) c
  | .run text =>
    if isRunChar c then .ok ⟨.run (c :: text), s.tokens⟩
    else Scan.start (.run text.reverse :: s.tokens) c
  | .opening q false =>
    if c = q.char then .ok ⟨.opening q true, s.tokens⟩ else Scan.inString s.tokens q [] c
  | .opening q true =>
    if c = q.char then .ok ⟨.blockStart q false, s.tokens⟩
    else Scan.start (quotedToken [] false :: s.tokens) c
  | .blockStart q carriageReturn =>
    if c = '\n' then .ok ⟨.block q [] 0, s.tokens⟩
    else if carriageReturn then .error (.unexpected '\r')
    else if c = '\r' then .ok ⟨.blockStart q true, s.tokens⟩
    else Scan.afterQuotes s.tokens q [] 0 c
  | .string q text => Scan.inString s.tokens q text c
  | .block q text quotes => Scan.afterQuotes s.tokens q text quotes c
  | .blockLineFeed q text =>
    if c = '\n' then Scan.inBlock s.tokens q text c else .error (.unexpected '\r')
  | .escape multiline text => Scan.inEscape s.tokens multiline text c
  | .codePoint multiline text left value => Scan.inCodePoint s.tokens multiline text left value c
  | .fold text broken carriageReturn => Scan.inFold s.tokens text broken carriageReturn c

/-- The tokens of a text. The text is read as if a line end followed it, which no string and no
carriage return at its end can take in. -/
def tokens (s : List Char) : Except Fault (List Token) := do
  let last ← s.foldlM Scan.step {}
  match last.mode with
  | .string _ _ | .escape _ _ | .codePoint _ _ _ _ | .fold _ _ _ | .blockStart _ _
  | .blockLineFeed _ _ | .opening _ false | .lineFeed => .error .endOfText
  | .block _ _ quotes =>
    if quotes < 3 then .error .endOfText
    else return (← last.step '\n').tokens.reverse
  | _ => return (← last.step '\n').tokens.reverse

end AbiBindings.Toml
