import SongSheet.Number.Binary64
import SongSheet.Text

/-!
# The shortest decimal that reads back

A binary64 number is printed with the fewest significant digits that read back as the same number,
and of the numerals with that many digits the one nearest to it. For a given count of digits only
the two neighbours of the number on that decimal grid can qualify, so trying one to seventeen digits
settles it in integer arithmetic.

How the digits are laid out is a separate decision, the record `DecimalLayout`.
-/

set_option autoImplicit false

namespace SongSheet

/-- Where positional writing ends and how an exponent is spelled. -/
structure DecimalLayout where
  /-- The least exponent of the leading digit that is written positionally. -/
  positionalFrom : Int
  /-- The first exponent of the leading digit that is no longer written positionally. -/
  positionalTo : Int
  /-- An exponent is padded with zeros to this many digits. -/
  exponentDigits : Nat
  /-- The words for what is not a number, and for infinity. -/
  notANumber : Text
  infinity : Text

namespace Binary64

/-- The exponent of the leading decimal digit of a positive quotient. -/
def leadingExponent (num den : Nat) : Int :=
  let length (n : Nat) : Nat := (Nat.toDigits 10 n).length
  if den ≤ num then (length (num / den) : Int) - 1
  else
    let gap := length den - length num
    if den ≤ num * Nat.pow 10 gap then -(gap : Int) else -(gap : Int) - 1

/-- The decimal with `count` significant digits that reads back as `m * 2 ^ e`, if there is one: a
digit string as a number and the exponent of its last digit. -/
def withDigits? (m : Nat) (e : Int) (count : Nat) : Option (Nat × Int) :=
  let num := m * Nat.pow 2 e.toNat
  let den := Nat.pow 2 (-e).toNat
  let last := leadingExponent num den - count + 1
  let top := num * Nat.pow 10 (-last).toNat
  let bottom := den * Nat.pow 10 last.toNat
  let below := top / bottom
  let above := below + 1
  let readsBack (digits : Nat) : Bool := ofDecimal false digits last = .finite false m e
  let twice := 2 * (top % bottom)
  let aboveIsNearer := bottom < twice || (bottom = twice && below % 2 = 1)
  match readsBack below, readsBack above with
  | true, true => some (if aboveIsNearer then above else below, last)
  | true, false => some (below, last)
  | false, true => some (above, last)
  | false, false => none

/-- The significant digits of a positive number, without trailing zeros, and the exponent of the
first. -/
def shortest (m : Nat) (e : Int) : Text × Int :=
  let (digits, last) :=
    ((List.range 17).findSome? fun i => withDigits? m e (i + 1)).getD (m, 0)
  let written := Text.ofNat digits
  let first := last + written.length - 1
  ((written.reverse.dropWhile (· = ('0' : CodePoint))).reverse, first)

/-- A point and the digits after it; without digits, what stands there instead. -/
def pointAnd (digits instead : Text) : Text :=
  if digits.isEmpty then instead else '.' :: digits

/-- Significant digits laid out around their point. -/
def layOut (layout : DecimalLayout) (digits : Text) (first : Int) : Text :=
  let zeros (n : Int) : Text := List.replicate n.toNat '0'
  if layout.positionalFrom ≤ first ∧ first < layout.positionalTo then
    if first < 0 then ("0." : Text) ++ zeros (-first - 1) ++ digits
    else
      digits.take (first.toNat + 1) ++ zeros (first + 1 - digits.length)
        ++ pointAnd (digits.drop (first.toNat + 1)) ".0"
  else
    let exponent := Text.ofNat first.natAbs
    let sign : Text := if first < 0 then "e-" else "e+"
    digits.take 1 ++ pointAnd (digits.drop 1) [] ++ sign
      ++ zeros (layout.exponentDigits - exponent.length) ++ exponent

/-- The sign in front of a number. -/
def signText (negative : Bool) : Text := if negative then ['-'] else []

/-- The text of a number. -/
def render (layout : DecimalLayout) : Binary64 → Text
  | .nan => layout.notANumber
  | .infinite negative => signText negative ++ layout.infinity
  | .finite negative m e =>
    let (digits, first) : Text × Int := if m = 0 then (['0'], 0) else shortest m e
    signText negative ++ layOut layout digits first

end Binary64

end SongSheet
