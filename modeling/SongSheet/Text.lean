/-!
# Text

A text is a sequence of Unicode code points. Sheets may spell a lone surrogate (an escape such as
`\ud83d` names one), and such a code point has to travel through a conversion unharmed, so a text
is not a `String`: `CodePoint` is every number below `0x110000`.

Here are the type, the step from `String` literals, and the cuts every format needs: words, pieces
between separators, the first and the last place where one text stands in another.
-/

set_option autoImplicit false

namespace SongSheet

/-- A Unicode code point, surrogates included. -/
structure CodePoint where
  val : Nat
  isLt : val < 0x110000
  deriving DecidableEq, Repr

namespace CodePoint

/-- The code point of a character; every character has one. -/
def ofChar (c : Char) : CodePoint :=
  ⟨c.toNat, by
    have h := c.valid
    simp only [UInt32.isValidChar, Nat.isValidChar, Char.toNat] at h ⊢
    omega⟩

instance : Coe Char CodePoint := ⟨ofChar⟩

instance : Inhabited CodePoint := ⟨ofChar ' '⟩

/-- The code point with number `n`, and the replacement character where there is none. -/
def ofNat (n : Nat) : CodePoint :=
  if h : n < 0x110000 then ⟨n, h⟩ else ⟨0xFFFD, by decide⟩

/-- `c` stands between two characters in code point order, ends included. -/
def between (c : CodePoint) (low high : Char) : Bool :=
  low.toNat ≤ c.val && c.val ≤ high.toNat

/-- The value of an ASCII decimal digit. -/
def asciiDigit? (c : CodePoint) : Option Nat :=
  if c.between '0' '9' then some (c.val - 48) else none

/-- The value of a hexadecimal digit, in either case. -/
def hexDigit? (c : CodePoint) : Option Nat :=
  if c.between '0' '9' then some (c.val - 48)
  else if c.between 'a' 'f' then some (c.val - 87)
  else if c.between 'A' 'F' then some (c.val - 55)
  else none

/-- A leading half of a surrogate pair. -/
def isHighSurrogate (c : CodePoint) : Bool := 0xD800 ≤ c.val && c.val < 0xDC00

/-- A trailing half of a surrogate pair. -/
def isLowSurrogate (c : CodePoint) : Bool := 0xDC00 ≤ c.val && c.val < 0xE000

/-- One of the code points that no character has. -/
def isSurrogate (c : CodePoint) : Bool := 0xD800 ≤ c.val && c.val < 0xE000

/-- The code point that a surrogate pair stands for. -/
def joinSurrogates (high low : CodePoint) : CodePoint :=
  ofNat (0x10000 + (high.val - 0xD800) * 0x400 + (low.val - 0xDC00))

/-- The character of a code point; surrogates have none and give the replacement character. -/
def toChar (c : CodePoint) : Char :=
  if c.isSurrogate then Char.ofNat 0xFFFD else Char.ofNat c.val

theorem ofChar_inj {a b : Char} : ofChar a = ofChar b ↔ a = b := by
  constructor
  · intro h
    have hv : a.toNat = b.toNat := congrArg CodePoint.val h
    exact Char.ext (UInt32.toNat_inj.mp hv)
  · exact fun h => h ▸ rfl

end CodePoint

/-- A sequence of code points. -/
abbrev Text := List CodePoint

namespace Text

/-- The text of a string. -/
def ofString (s : String) : Text := s.toList.map CodePoint.ofChar

instance : Coe String Text := ⟨ofString⟩

/-- The string of a text, for display only: surrogates have no place in a string. -/
def toString (t : Text) : String := String.ofList (t.map CodePoint.toChar)

/-- Texts one after the other with a separator between neighbours. -/
def join (separator : Text) : List Text → Text
  | [] => []
  | [t] => t
  | t :: u :: rest => t ++ separator ++ join separator (u :: rest)

/-- A text between two marks. -/
def enclose (left right : CodePoint) (t : Text) : Text := left :: t ++ [right]

/-- The pieces between the occurrences of a separator: one more than it occurs. -/
def splitOn (separator : CodePoint) : Text → List Text
  | [] => [[]]
  | c :: t =>
    if c = separator then [] :: splitOn separator t
    else
      match splitOn separator t with
      | [] => [[c]]
      | piece :: pieces => (c :: piece) :: pieces

/-- What follows `start` at the front of a text. -/
def after? (start : Text) (t : Text) : Option Text :=
  match start, t with
  | [], t => some t
  | _ :: _, [] => none
  | a :: start, c :: t => if a = c then after? start t else none

/-- A text cut around the first place where `needle` stands: what is before, what is after. -/
def cut? (needle : Text) (t : Text) : Option (Text × Text) :=
  match after? needle t with
  | some rest => some ([], rest)
  | none =>
    match t with
    | [] => none
    | c :: t => (cut? needle t).map fun (before, rest) => (c :: before, rest)

/-- Whether `needle` stands somewhere in a text. -/
def contains (needle : Text) (t : Text) : Bool := (cut? needle t).isSome

/-- The position of the last place where `needle` stands. -/
def lastIndexOf? (needle : Text) (t : Text) : Option Nat :=
  match t with
  | [] => if needle.isEmpty then some 0 else none
  | c :: t =>
    match lastIndexOf? needle t with
    | some i => some (i + 1)
    | none => if (after? needle (c :: t)).isSome then some 0 else none

/-- Carriage returns, alone or before a line feed, become line feeds. -/
def unixLines : Text → Text
  | [] => []
  | c :: t =>
    if c = '\r' then
      match t with
      | [] => ['\n']
      | d :: rest => if d = '\n' then '\n' :: unixLines rest else '\n' :: unixLines (d :: rest)
    else c :: unixLines t

/-- The decimal numeral of a natural number. -/
def ofNat (n : Nat) : Text := (Nat.toDigits 10 n).map CodePoint.ofChar

/-- The decimal numeral of an integer, with a minus sign below zero. -/
def ofInt (n : Int) : Text :=
  if n < 0 then '-' :: ofNat n.natAbs else ofNat n.natAbs

/-- The number that hexadecimal digits write. -/
def hexNumber (digits : Text) : Nat := digits.foldl (fun n c => n * 16 + c.hexDigit?.getD 0) 0

/-- A line and a column, both counted from one, of a position in a text: the column is the distance
from the line feed before it. -/
def lineColumn (t : Text) (index : Nat) : Nat × Nat :=
  let before := t.take index
  (before.count ('\n' : CodePoint) + 1,
    (before.reverse.takeWhile (· ≠ ('\n' : CodePoint))).length + 1)

end Text

end SongSheet
