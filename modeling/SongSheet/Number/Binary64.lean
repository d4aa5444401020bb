import SongSheet.Number.Rounding

/-!
# Floating-point numbers of 64 bits

An event sheet may hold a number with a fraction or an exponent. Such a number is the binary64
number nearest to what is written. It is kept as a sign, a mantissa and a power of two rather than
as a machine word, so that reading, comparing and printing are exact integer arithmetic.

`ofDecimal` is the way in; its mantissas lie below `2 ^ 53`, and the exponent is the least one that
allows this (never below `-1074`), so equal numbers of one sign are equal values.
-/

set_option autoImplicit false

namespace SongSheet

/-- A binary64 number; `finite negative m e` is `m * 2 ^ e` under a sign. -/
inductive Binary64 where
  | nan
  | infinite (negative : Bool)
  | finite (negative : Bool) (mantissa : Nat) (exponent : Int)
  deriving DecidableEq, Repr

namespace Binary64

/-- The exponent of the smallest positive number. -/
def minExponent : Int := -1074

/-- The exponent of the largest finite number. -/
def maxExponent : Int := 971

/-- The number nearest to the positive quotient `num / den`; past the largest finite number it is
infinite. -/
def ofRatio (negative : Bool) (num den : Nat) : Binary64 :=
  let scaled (e : Int) : Nat × Nat := (num * Nat.pow 2 (-e).toNat, den * Nat.pow 2 e.toNat)
  let guess : Int := num.log2 - den.log2 - 52
  let fits := Nat.pow 2 52 ≤ (scaled guess).1 / (scaled guess).2
  let exponent := max minExponent (if fits then guess else guess - 1)
  let (top, bottom) := scaled exponent
  let mantissa := (roundHalfEven top bottom).toNat
  let (mantissa, exponent) :=
    if mantissa = Nat.pow 2 53 then (Nat.pow 2 52, exponent + 1) else (mantissa, exponent)
  if maxExponent < exponent then .infinite negative else .finite negative mantissa exponent

/-- The number nearest to `digits * 10 ^ exponent`. A magnitude far outside the range is settled by
its number of digits, without writing the power out. -/
def ofDecimal (negative : Bool) (digits : Nat) (exponent : Int) : Binary64 :=
  if digits = 0 then .finite negative 0 minExponent
  else
    let magnitude : Int := (Nat.toDigits 10 digits).length + exponent
    if 310 < magnitude then .infinite negative
    else if magnitude < -330 then .finite negative 0 minExponent
    else ofRatio negative (digits * Nat.pow 10 exponent.toNat) (Nat.pow 10 (-exponent).toNat)

/-- An integer past the largest finite number. -/
def isBeyond (n : Int) : Bool :=
  match ofRatio false n.natAbs 1 with
  | .finite .. => false
  | _ => true

/-- The integer that a number is, if it is one. -/
def toInt? : Binary64 → Option Int
  | .finite negative m e =>
    let divisor := Nat.pow 2 (-e).toNat
    if m % divisor = 0 then
      let n : Int := (m / divisor * Nat.pow 2 e.toNat : Nat)
      some (if negative then -n else n)
    else none
  | _ => none

/-- A number is zero under either sign. -/
def isZero : Binary64 → Bool
  | .finite _ m _ => m = 0
  | _ => false

end Binary64

end SongSheet
