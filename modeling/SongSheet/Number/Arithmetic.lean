import SongSheet.Number.Binary64

/-!
# Arithmetic of floating-point numbers

Sums and products are the numbers nearest to the exact ones. An exact sum of zero is negative only
if both numbers are; a product is negative if one of them is.
-/

set_option autoImplicit false

namespace SongSheet.Binary64

/-- Zero. -/
def zero : Binary64 := .finite false 0 minExponent

/-- A number under the other sign. -/
def neg : Binary64 → Binary64
  | nan => nan
  | infinite negative => infinite !negative
  | finite negative m e => finite (!negative) m e

/-- The number nearest to `mantissa * 2 ^ exponent`, under a sign. -/
def round (negative : Bool) (mantissa : Nat) (exponent : Int) : Binary64 :=
  if mantissa = 0 then .finite negative 0 minExponent
  else ofRatio negative (mantissa * Nat.pow 2 exponent.toNat) (Nat.pow 2 (-exponent).toNat)

/-- The sum of two numbers. -/
def add : Binary64 → Binary64 → Binary64
  | nan, _ | _, nan => nan
  | infinite a, infinite b => if a = b then infinite a else nan
  | infinite a, finite .. => infinite a
  | finite .., infinite b => infinite b
  | finite a m d, finite b n e =>
    let exponent := min d e
    let worth (negative : Bool) (m : Nat) (e : Int) : Int :=
      let whole : Int := (m * Nat.pow 2 (e - exponent).toNat : Nat)
      if negative then -whole else whole
    let sum := worth a m d + worth b n e
    round (if sum = 0 then a && b else sum < 0) sum.natAbs exponent

/-- The product of two numbers. -/
def mul : Binary64 → Binary64 → Binary64
  | nan, _ | _, nan => nan
  | infinite a, infinite b => infinite (a != b)
  | infinite a, finite b m _ | finite b m _, infinite a => if m = 0 then nan else infinite (a != b)
  | finite a m d, finite b n e => round (a != b) (m * n) (d + e)

end SongSheet.Binary64
