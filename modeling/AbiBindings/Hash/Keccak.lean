/-!
# Keccak-256

The hash behind function selectors and event topics: a sponge over twenty-five 64-bit words that
takes in blocks of 136 bytes, padded with a first bit `1` and a last bit `1` (byte `0x01` first,
byte `0x80` last, `0x81` when one byte remains).

Words are kept in one vector, the word of column `x` and row `y` at index `x + 5 * y`; bytes fill
a word from its low end.
-/

namespace AbiBindings.Keccak

/-- The twenty-five words of the sponge. -/
abbrev State := Vector UInt64 25

/-- The word of column `x` and row `y`, both counted modulo five. -/
def word (s : State) (x y : Nat) : UInt64 :=
  s.get ⟨x % 5 + 5 * (y % 5), by omega⟩

/-- Build a state from a rule for the word of each column and row. -/
def build (rule : Nat → Nat → UInt64) : State :=
  Vector.ofFn fun i => rule (i.val % 5) (i.val / 5)

/-- Rotation to the left by `n < 64` bits. -/
def rotate (w : UInt64) (n : UInt64) : UInt64 :=
  (w <<< n) ||| (w >>> (64 - n))

/-- How far the word of column `x` and row `y` is rotated. -/
def rotation (x y : Nat) : UInt64 :=
  ([0, 1, 62, 28, 27, 36, 44, 6, 55, 20, 3, 10, 43, 25, 39, 41, 45, 15, 21, 8, 18, 2, 61, 56,
    14] : List UInt64).getD (x % 5 + 5 * (y % 5)) 0

/-- The constants added to the first word, one a round. -/
def roundConstants : List UInt64 :=
  [0x0000000000000001, 0x0000000000008082, 0x800000000000808A, 0x8000000080008000,
   0x000000000000808B, 0x0000000080000001, 0x8000000080008081, 0x8000000000008009,
   0x000000000000008A, 0x0000000000000088, 0x0000000080008009, 0x000000008000000A,
   0x000000008000808B, 0x800000000000008B, 0x8000000000008089, 0x8000000000008003,
   0x8000000000008002, 0x8000000000000080, 0x000000000000800A, 0x800000008000000A,
   0x8000000080008081, 0x8000000000008080, 0x0000000080000001, 0x8000000080008008]

/-! ## One round -/

/-- Each word takes in the parities of the two neighbouring columns. -/
def mixColumns (s : State) : State :=
  let parity (x : Nat) : UInt64 :=
    word s x 0 ^^^ word s x 1 ^^^ word s x 2 ^^^ word s x 3 ^^^ word s x 4
  let parities : Vector UInt64 5 := Vector.ofFn fun x => parity x.val
  let parityOf (x : Nat) : UInt64 := parities.get ⟨x % 5, Nat.mod_lt _ (by decide)⟩
  build fun x y => word s x y ^^^ parityOf (x + 4) ^^^ rotate (parityOf (x + 1)) 1

/-- Words are rotated and moved: column `x`, row `y` goes to column `y`, row `2x + 3y`. -/
def spread (s : State) : State :=
  build fun x y => rotate (word s (x + 3 * y) x) (rotation (x + 3 * y) x)

/-- The only step that is not linear: each word takes in a product of the next two of its row. -/
def combineRows (s : State) : State :=
  build fun x y => word s x y ^^^ (~~~ (word s (x + 1) y) &&& word s (x + 2) y)

/-- One round with its constant. -/
def round (s : State) (constant : UInt64) : State :=
  let t := combineRows (spread (mixColumns s))
  t.set 0 (word t 0 0 ^^^ constant)

/-- The permutation of the sponge: all twenty-four rounds. -/
def permute (s : State) : State :=
  roundConstants.foldl round s

/-! ## The sponge -/

/-- Bytes taken in before each permutation. -/
def rate : Nat := 136

/-- Fill up to a multiple of the rate, by at least one byte. -/
def padding (length : Nat) : List UInt8 :=
  let missing := rate - length % rate
  if missing = 1 then [0x81] else 0x01 :: (List.replicate (missing - 2) 0x00 ++ [0x80])

/-- The number whose bytes are given, the lowest first. -/
def wordOfBytes (bytes : List UInt8) : UInt64 :=
  bytes.foldr (fun b w => (w <<< 8) ||| b.toUInt64) 0

/-- The eight bytes of a word, the lowest first. -/
def bytesOfWord (w : UInt64) : List UInt8 :=
  (List.range 8).map fun i => (w >>> (8 * i).toUInt64).toUInt8

/-- Take in one block of `rate` bytes. -/
def absorb (s : State) (block : List UInt8) : State :=
  permute <| Vector.ofFn fun i =>
    s.get i ^^^ (if i.val < 17 then wordOfBytes ((block.drop (8 * i.val)).take 8) else 0)

/-- The thirty-two bytes of the hash. -/
def digest (bytes : List UInt8) : List UInt8 :=
  let padded := bytes ++ padding bytes.length
  let blocks := (List.range (padded.length / rate)).map fun i => (padded.drop (rate * i)).take rate
  let s := blocks.foldl absorb (Vector.replicate 25 0)
  (List.range 4).flatMap fun x => bytesOfWord (word s x 0)

/-! ## Hexadecimal text -/

/-- The lower-case hexadecimal digit of a number below sixteen. -/
def hexDigit (n : Nat) : Char :=
  "0123456789abcdef".toList.getD n '0'

/-- Two hexadecimal digits for each byte. -/
def hexText (bytes : List UInt8) : String :=
  String.ofList (bytes.flatMap fun b => [hexDigit (b.toNat / 16), hexDigit (b.toNat % 16)])

/-- The hash of a text's UTF-8 bytes. -/
def ofText (text : String) : List UInt8 :=
  digest text.toUTF8.toList

end AbiBindings.Keccak
