import AbiBindings.Text.ClusterBreak
import AbiBindings.Text.Printable

/-!
# Quoted text

The form in which log messages show a text: between double quotes, with a backslash before quotes
and backslashes, letters for the common control characters, and the code point of every character
that cannot be shown by itself, be it invisible or one that extends the character before. The two
half-width sound marks of Katakana extend the character before and are shown all the same.
-/

namespace AbiBindings.Text

/-- Characters that are shown together with the one before only. -/
def isAttached (c : Char) : Bool :=
  isExtender c && c != '\uff9e' && c != '\uff9f'

/-- A code point in lower-case hexadecimal digits between braces. -/
def codePointEscape (c : Char) : List Char :=
  "\\u\x7b".toList ++ Nat.toDigits 16 c.toNat ++ ['\x7d']

/-- How one character is written between quotes. -/
def quotedChar (c : Char) : List Char :=
  if c = '\x00' then ['\\', '0']
  else if c = '\t' then ['\\', 't']
  else if c = '\n' then ['\\', 'n']
  else if c = '\r' then ['\\', 'r']
  else if c = '"' then ['\\', '"']
  else if c = '\\' then ['\\', '\\']
  else if isAttached c || !isPrintable c then codePointEscape c
  else [c]

/-- A text between double quotes. -/
def quoted (s : String) : String :=
  String.ofList ('"' :: s.toList.flatMap quotedChar ++ ['"'])

end AbiBindings.Text
