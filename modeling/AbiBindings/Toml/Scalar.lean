import AbiBindings.Number.Decimal
import AbiBindings.Number.Digits
import AbiBindings.Toml.Value

/-!
# Numbers, moments and truth values

The scalar values that TOML writes without quotes. Integers have 64 bits; underscores may stand
between digits; decimal numbers have no leading zero; dates have to exist in the calendar.
-/

namespace AbiBindings.Toml

/-! ## Numbers -/

/-- The digits without the underscores between them, if the text consists of digits and every
underscore stands between two of them. -/
def digits? (isDigit : Char → Bool) : List Char → Option (List Char)
  | [] => none
  | [c] => if isDigit c then some [c] else none
  | c :: '_' :: rest => if isDigit c then (digits? isDigit rest).map (c :: ·) else none
  | c :: rest => if isDigit c then (digits? isDigit rest).map (c :: ·) else none

/-- The digits of a decimal number without leading zeros. -/
def wholeDigits? (s : List Char) : Option (List Char) :=
  (digits? Char.isDigit s).filter fun digits => digits.head? != some '0' || digits.length == 1

/-- A sign, if there is one, and what follows it. -/
def splitSign : List Char → Option Char × List Char
  | '+' :: rest => (some '+', rest)
  | '-' :: rest => (some '-', rest)
  | s => (none, s)

/-- The number that a sign and decimal digits denote. -/
def signed (sign? : Option Char) (digits : List Char) : Int :=
  let n : Int := Nat.ofDigitChars 10 digits 0
  if sign? = some '-' then -n else n

/-- Whether a number fits 64 bits with a sign. -/
def fits64 (n : Int) : Bool :=
  -(Nat.pow 2 63) ≤ n && n < Nat.pow 2 63

/-- The integer that a text denotes: in base sixteen, eight or two behind `0x`, `0o` or `0b`. -/
def integer? (s : List Char) : Option Int :=
  let value? : Option Int := match s with
    | '0' :: 'x' :: rest =>
      (digits? (fun c => (hexValue? c).isSome) rest).map fun digits => natOfHex digits
    | '0' :: 'o' :: rest =>
      (digits? (fun c => '0' ≤ c && c ≤ '7') rest).map fun digits => Nat.ofDigitChars 8 digits 0
    | '0' :: 'b' :: rest =>
      (digits? (fun c => c == '0' || c == '1') rest).map fun digits => Nat.ofDigitChars 2 digits 0
    | _ =>
      let (sign?, rest) := splitSign s
      (wholeDigits? rest).map (signed sign?)
  value?.filter fits64

/-- The power of ten at the end of a floating-point number; zero where there is none. -/
def exponent? : List Char → Option Int
  | [] => some 0
  | e :: rest =>
    if e = 'e' ∨ e = 'E' then
      let (sign?, digits) := splitSign rest
      (digits? Char.isDigit digits).map (signed sign?)
    else none

/-- Whether a text denotes a floating-point number: one with a fraction or an exponent, infinity,
or not a number. A number must not round to positive infinity. -/
def isFloat (s : List Char) : Bool :=
  let (sign?, rest) := splitSign s
  if rest = "inf".toList ∨ rest = "nan".toList then true
  else
    let isPart (c : Char) := c.isDigit || c == '_'
    let whole := rest.takeWhile isPart
    let fraction? : Option (List Char) × List Char := match rest.dropWhile isPart with
      | '.' :: more => (some (more.takeWhile isPart), more.dropWhile isPart)
      | more => (none, more)
    let fractionDigits? := match fraction?.1 with
      | some fraction => digits? Char.isDigit fraction
      | none => some []
    match wholeDigits? whole, fractionDigits?, exponent? fraction?.2 with
    | some whole, some fraction, some exponent =>
      let value : Decimal :=
        ⟨sign? = some '-', Nat.ofDigitChars 10 (whole ++ fraction) 0, exponent - fraction.length⟩
      (fraction?.1.isSome || !fraction?.2.isEmpty) && (value.negative || !value.overflows)
    | _, _, _ => false

/-! ## Moments -/

/-- The number that exactly the given count of digits at the beginning denote, and the rest. -/
def fixedDigits? (count : Nat) (s : List Char) : Option (Nat × List Char) :=
  let digits := s.take count
  if digits.length = count ∧ digits.all Char.isDigit then
    some (Nat.ofDigitChars 10 digits 0, s.drop count)
  else none

/-- What follows a given character. -/
def after? (c : Char) : List Char → Option (List Char)
  | d :: rest => if d = c then some rest else none
  | [] => none

/-- How many days a month has. -/
def daysInMonth (year month : Nat) : Nat :=
  if month = 2 then
    if year % 4 = 0 ∧ (year % 100 ≠ 0 ∨ year % 400 = 0) then 29 else 28
  else if month = 4 ∨ month = 6 ∨ month = 9 ∨ month = 11 then 30
  else 31

/-- A date at the beginning of a text: its spelling and the rest. -/
def date? (s : List Char) : Option (List Char × List Char) := do
  let (year, rest) ← fixedDigits? 4 s
  let (month, rest) ← fixedDigits? 2 (← after? '-' rest)
  let (day, rest) ← fixedDigits? 2 (← after? '-' rest)
  if 1 ≤ month ∧ month ≤ 12 ∧ 1 ≤ day ∧ day ≤ daysInMonth year month then
    return (s.take 10, rest)
  else none

/-- The fraction of a second in its shortest form: nine places count, and zeros at the end are
left out. -/
def fractionText (digits : List Char) : List Char :=
  let kept := ((digits.take 9).reverse.dropWhile (· == '0')).reverse
  if kept.isEmpty then [] else '.' :: kept

/-- A time of day at the beginning of a text: its spelling and the rest. -/
def time? (s : List Char) : Option (List Char × List Char) := do
  let (hour, rest) ← fixedDigits? 2 s
  let (minute, rest) ← fixedDigits? 2 (← after? ':' rest)
  let (second, rest) ← fixedDigits? 2 (← after? ':' rest)
  if hour ≤ 23 ∧ minute ≤ 59 ∧ second ≤ 60 then
    match rest with
    | '.' :: more =>
      let digits := more.takeWhile Char.isDigit
      if digits.isEmpty then none
      else some (s.take 8 ++ fractionText digits, more.dropWhile Char.isDigit)
    | _ => some (s.take 8, rest)
  else none

/-- The spelling of a distance from universal time. -/
def offset? (s : List Char) : Option (List Char) :=
  match s with
  | ['Z'] | ['z'] => some ['Z']
  | sign :: rest => do
    let (hour, more) ← fixedDigits? 2 rest
    let (minute, last) ← fixedDigits? 2 (← after? ':' more)
    if (sign = '+' ∨ sign = '-') ∧ hour ≤ 23 ∧ minute ≤ 59 ∧ last.isEmpty then
      some ((if hour = 0 ∧ minute = 0 then '+' else sign) :: rest)
    else none
  | [] => none

/-- The spelling of a moment: a date, a time, or both with or without an offset. Between date and
time stands a `T`, for which a small letter or one space may be written. -/
def moment? (s : List Char) : Option (List Char) :=
  match date? s with
  | some (date, []) => some date
  | some (date, separator :: rest) =>
    if separator = 'T' ∨ separator = 't' ∨ separator = ' ' then do
      let (time, rest) ← time? rest
      let offset ← if rest.isEmpty then some [] else offset? rest
      return date ++ 'T' :: time ++ offset
    else none
  | none =>
    match time? s with
    | some (time, []) => some time
    | _ => none

/-- Whether a text is a date and nothing else, so that a time may follow after a space. -/
def isDate (s : List Char) : Bool :=
  match date? s with
  | some (_, []) => true
  | _ => false

/-! ## Values -/

/-- The value that a text without quotes denotes. -/
def ofScalar (s : List Char) : Except Fault Toml :=
  if s = "true".toList then .ok (bool true)
  else if s = "false".toList then .ok (bool false)
  else if let some text := moment? s then .ok (moment (String.ofList text))
  else if let some n := integer? s then .ok (integer n)
  else if isFloat s then .ok (float (String.ofList s))
  else .error (.badValue (String.ofList s))

end AbiBindings.Toml
