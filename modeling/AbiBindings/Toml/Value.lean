/-!
# TOML values

What a TOML document says, without how it is written: a table of keys and values in the order in
which they first appear. Floating-point numbers and moments are kept as they are written.
-/

namespace AbiBindings

/-- A TOML value. -/
inductive Toml where
  | string (s : String)
  | integer (n : Int)
  | float (text : String)
  | bool (b : Bool)
  /-- A date, a time or both. -/
  | moment (text : String)
  | array (items : List Toml)
  | table (members : List (String × Toml))

namespace Toml

/-- Why a text is no TOML document. -/
inductive Fault where
  | endOfText
  | unexpected (c : Char)
  | badEscape
  | badKey (key : String)
  | badValue (text : String)
  | misplaced
  | tooDeep
  /-- The key has a value already, or the table may not be extended where it stands. -/
  | duplicateKey (key : String)
  deriving DecidableEq

/-- The wording of a fault. -/
def Fault.message : Fault → String
  | endOfText => "the text ends too early"
  | unexpected c => "unexpected character " ++ String.singleton c
  | badEscape => "invalid escape in a string"
  | badKey key => "invalid key " ++ key
  | badValue text => "invalid value " ++ text
  | misplaced => "key, value or punctuation in the wrong place"
  | tooDeep => "nested too deeply"
  | duplicateKey key => "duplicate key " ++ key

/-- The value of a member with the given key. -/
def member? (key : String) (members : List (String × Toml)) : Option Toml :=
  members.lookup key

end Toml

end AbiBindings
