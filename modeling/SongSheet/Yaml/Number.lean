import SongSheet.Number.Arithmetic
import SongSheet.Text.Digit
import SongSheet.Yaml.Error

/-!
# Numbers in YAML

Which plain scalars are numbers, and what a scalar is worth that has to be one. Integers are written
in base two, eight, ten or sixteen, and numbers of either kind in parts of sixty between colons.
Underscores among the digits count for nothing.

A scalar that has to be a number may be written in more ways than a plain scalar that is taken for
one: with blanks around it, or with the digits of any script.
-/

set_option autoImplicit false

namespace SongSheet.Yaml

/-! ## Forms -/

/-- A text without a sign in front. -/
def unsigned (t : Text) : Text :=
  match t with
  | c :: rest => if c = '+' || c = '-' then rest else t
  | [] => []

/-- A decimal digit of ASCII. -/
def isDigit (c : CodePoint) : Bool := c.between '0' '9'

/-- A decimal digit of ASCII or an underscore. -/
def isDigitOrGap (c : CodePoint) : Bool := isDigit c || c = '_'

/-- Decimal digits with underscores among them, the first one from some digit on. -/
def isSpacedNumeral (least : Char) (t : Text) : Bool :=
  t.head?.any (·.between least '9') && t.all isDigitOrGap

/-- One of the sixty parts of a unit, in one digit or two. -/
def isSixtieth : Text → Bool
  | [a] => isDigit a
  | [a, b] => a.between '0' '5' && isDigit b
  | _ => false

/-- A number and its sixtieth parts, one of those at least. -/
def isSexagesimal (least : Char) (t : Text) : Bool :=
  match Text.splitOn ':' t with
  | whole :: part :: parts => isSpacedNumeral least whole && (part :: parts).all isSixtieth
  | _ => false

/-- A plain scalar has the form of an integer. -/
def isIntForm (t : Text) : Bool :=
  let t := unsigned t
  let isBased (start : Text) (isLetter : CodePoint → Bool) : Bool :=
    (Text.after? start t).any fun digits =>
      !digits.isEmpty && digits.all fun c => isLetter c || c = '_'
  isBased "0b" (·.between '0' '1') || isBased "0" (·.between '0' '7') || t = "0"
    || isSpacedNumeral '1' t || isBased "0x" (fun c => c.hexDigit?.isSome) || isSexagesimal '1' t

/-- Nothing, or an exponent: its letter, a sign and digits. -/
def isExponentForm : Text → Bool
  | [] => true
  | e :: s :: digits =>
    (e = 'e' || e = 'E') && (s = '+' || s = '-') && !digits.isEmpty && digits.all isDigit
  | _ => false

/-- A plain scalar has the form of a number with a point. -/
def isFloatForm (t : Text) : Bool :=
  let isOneOf (words : List String) (t : Text) : Bool := words.any fun w => Text.ofString w = t
  let behindPoint (t : Text) : Bool := isExponentForm (t.dropWhile isDigitOrGap)
  match Text.cut? "." (unsigned t) with
  | none => false
  | some (whole, fraction) =>
    (isSpacedNumeral '0' whole && behindPoint fraction)
      || (whole.isEmpty && unsigned t = t && fraction.head?.any isDigit && behindPoint fraction)
      || (isSexagesimal '0' whole && fraction.all isDigitOrGap)
      || (whole.isEmpty && isOneOf ["inf", "Inf", "INF"] fraction)
      || isOneOf [".nan", ".NaN", ".NAN"] t

/-! ## Values -/

/-- A text without underscores. -/
def withoutGaps (t : Text) : Text := t.filter (· ≠ ('_' : CodePoint))

/-- A text without the margins that a number may have. -/
def withoutMargins (t : Text) : Text :=
  ((t.dropWhile Text.isMargin).reverse.dropWhile Text.isMargin).reverse

/-- The value of a digit in some base: a decimal digit of any script or a letter. -/
def digitOf? (base : Nat) (c : CodePoint) : Option Nat :=
  (c.digit?.or c.hexDigit?).filter (· < base)

/-- The integer that a text writes in a base, with margins and a sign. A zero and the letter of the
base may be in front of its digits. -/
def integer? (base : Nat) (t : Text) : Option Int := do
  let t := withoutMargins t
  let isNegative : Bool := t.head? = some ('-' : CodePoint)
  let digits := unsigned t
  let digits :=
    match digits with
    | zero :: letter :: rest =>
      if zero.digit? = some 0 ∧ isLetter letter then rest else digits
    | _ => digits
  let values ← digits.mapM (digitOf? base)
  let n := values.foldl (fun n d => n * base + d) 0
  if values.isEmpty then none else return if isNegative then -(n : Int) else (n : Int)
where
  /-- The letter of the base. -/
  isLetter (c : CodePoint) : Bool :=
    match base with
    | 2 => c = 'b' || c = 'B'
    | 8 => c = 'o' || c = 'O'
    | 16 => c = 'x' || c = 'X'
    | _ => false

/-- The sign in front of a number, and the number without it. There has to be something. -/
def signed (t : Text) : Except Error (Bool × Text) :=
  match t with
  | [] => .error .noNumber
  | c :: _ => .ok (c = '-', unsigned t)

/-- The integer that a scalar is worth. -/
def intOf (t : Text) : Except Error Int := do
  let (isNegative, t) ← signed (withoutGaps t)
  let value : Option Int ←
    match Text.after? "0b" t, Text.after? "0x" t, t with
    | some digits, _, _ => pure (integer? 2 digits)
    | none, some digits, _ => pure (integer? 16 digits)
    | none, none, [] => .error .noNumber
    | none, none, c :: rest =>
      if c = '0' ∧ rest.isEmpty then pure (some 0)
      else if c = '0' then pure (integer? 8 t)
      else
        pure (((Text.splitOn ':' t).mapM (integer? 10)).map fun parts =>
          parts.foldl (fun n part => n * 60 + part) 0)
  match value with
  | some n => return if isNegative then -n else n
  | none => .error .number

/-- The number that a text writes, with margins and a sign: decimal digits of any script with a
point and an exponent, or a word. -/
def decimal? (t : Text) : Option Binary64 :=
  let t := withoutMargins t
  let isNegative : Bool := t.head? = some ('-' : CodePoint)
  let t := unsigned t
  let isWord (words : List String) : Bool := words.any fun w => Text.ofString w = t
  if isWord ["inf", "infinity"] then some (.infinite isNegative)
  else if isWord ["nan"] then some .nan
  else do
    let (whole, rest) := Text.takeDigits t
    let (fraction, rest) : Text × Text :=
      match rest with
      | c :: more => if c = '.' then Text.takeDigits more else ([], rest)
      | [] => ([], [])
    let exponent : Int ←
      match rest with
      | [] => some 0
      | e :: more =>
        let digits := unsigned more
        if e ≠ 'e' ∨ digits.isEmpty ∨ !digits.all CodePoint.isDigit then none
        else
          let n : Int := Text.readNat digits
          some (if more.head? = some ('-' : CodePoint) then -n else n)
    if whole.isEmpty && fraction.isEmpty then none
    else
      return Binary64.ofDecimal isNegative (Text.readNat (whole ++ fraction))
        (exponent - fraction.length)

/-- A text with the capital letters of ASCII made small. -/
def lowered (t : Text) : Text :=
  t.map fun (c : CodePoint) => if c.between 'A' 'Z' then .ofNat (c.val + 32) else c

/-- The number that parts of sixty come to, the last one first, where a part of this place counts
`unit` times. -/
def sexagesimal (unit : Nat) (sum : Binary64) : List Binary64 → Except Error Binary64
  | [] => .ok sum
  | part :: parts =>
    if Binary64.isBeyond unit then .error .numberSize
    else sexagesimal (unit * 60) (sum.add (part.mul (.ofRatio false unit 1))) parts

/-- The number with a point that a scalar is worth. -/
def floatOf (t : Text) : Except Error Binary64 := do
  let (isNegative, t) ← signed (lowered (withoutGaps t))
  let sign (x : Binary64) : Binary64 := if isNegative then x.neg else x
  if t = ".inf" then return .infinite isNegative
  else if t = ".nan" then return .nan
  else if t.elem (':' : CodePoint) then
    match (Text.splitOn ':' t).mapM decimal? with
    | none => .error .number
    | some parts => return sign (← sexagesimal 1 .zero parts.reverse)
  else
    match decimal? t with
    | none => .error .number
    | some x => return sign x

end SongSheet.Yaml
