import SongSheet.SheetError

/-!
# Rates

The length of a beat is a fraction of the reference beat, kept as it was written: `2/4` and `1/2`
are different rates of one value. The denominator is never zero, which the type says; either field
may be negative.

`reduce` divides both fields by their greatest common divisor, which Euclid's algorithm finds, and
keeps the sign of each; `lowestTerms` gives the value itself, with a positive denominator.
-/

set_option autoImplicit false

namespace SongSheet

/-- A fraction with a denominator other than zero. -/
structure Rate where
  num : Int
  den : Int
  den_ne_zero : den ≠ 0 := by decide
  deriving DecidableEq

namespace Rate

instance : Inhabited Rate := ⟨{ num := 1, den := 1 }⟩

/-- The fraction with these fields. -/
def make (num den : Int) : Except SheetError Rate :=
  if h : den = 0 then .error .zeroDenominator else .ok ⟨num, den, h⟩

/-- A whole number of reference beats. -/
def ofInt (n : Int) : Rate := { num := n, den := 1 }

/-- The same fraction with another numerator. -/
def withNum (r : Rate) (num : Int) : Rate := { r with num }

/-- The same fraction with another denominator. -/
def withDen (r : Rate) (den : Int) : Except SheetError Rate := make r.num den

/-- Euclid's algorithm: what the smaller of two numbers leaves of the larger takes the place of the
larger, until nothing is left. -/
def euclid (big small : Nat) : Nat :=
  if small = 0 then big else euclid small (big % small)
termination_by small
decreasing_by exact Nat.mod_lt big (Nat.pos_of_ne_zero ‹_›)

theorem euclid_eq_gcd (big small : Nat) : euclid big small = Nat.gcd big small := by
  fun_induction euclid big small with
  | case1 big => exact (Nat.gcd_zero_right big).symm
  | case2 big small h ih => rw [ih, Nat.gcd_comm big, Nat.gcd_rec small big, Nat.gcd_comm]

/-- The greatest common divisor of the two fields. -/
def divisor (r : Rate) : Nat :=
  euclid (max r.num.natAbs r.den.natAbs) (min r.num.natAbs r.den.natAbs)

theorem divisor_eq_gcd (r : Rate) : r.divisor = Int.gcd r.num r.den := by
  rw [divisor, euclid_eq_gcd, Int.gcd]
  rcases Nat.le_total r.num.natAbs r.den.natAbs with h | h
  · rw [Nat.max_eq_right h, Nat.min_eq_left h, Nat.gcd_comm]
  · rw [Nat.max_eq_left h, Nat.min_eq_right h]

theorem divisor_pos (r : Rate) : 0 < r.divisor := by
  rw [divisor_eq_gcd]
  exact Nat.pos_of_ne_zero fun h => r.den_ne_zero (Int.gcd_eq_zero_iff.mp h).2

theorem divisor_dvd_num (r : Rate) : (r.divisor : Int) ∣ r.num := by
  rw [divisor_eq_gcd]
  exact Int.gcd_dvd_left ..

theorem divisor_dvd_den (r : Rate) : (r.divisor : Int) ∣ r.den := by
  rw [divisor_eq_gcd]
  exact Int.gcd_dvd_right ..

/-- Both fields divided by their greatest common divisor. -/
def reduce (r : Rate) : Rate :=
  ⟨r.num / r.divisor, r.den / r.divisor, by
    obtain ⟨k, hk⟩ := r.divisor_dvd_den
    have hpos := r.divisor_pos
    have hden := r.den_ne_zero
    rw [hk, Int.mul_ediv_cancel_left k (by omega)]
    rintro rfl
    simp [hk] at hden⟩

/-- Numerator and denominator in lowest terms, the denominator positive. -/
def lowestTerms (r : Rate) : Int × Nat :=
  let reduced := r.reduce
  (if reduced.den < 0 then -reduced.num else reduced.num, reduced.den.natAbs)

/-- The exact value. -/
def value (r : Rate) : Rat := Rat.divInt r.num r.den

/-- The fields as they are, for a person. -/
def display (r : Rate) : Text :=
  ("Rate(" : Text) ++ Text.ofInt r.num ++ (", " : Text) ++ Text.ofInt r.den ++ (")" : Text)

/-- A change to a rate. -/
inductive Edit where
  | make (num den : Int)
  | setNum (num : Int)
  | setDen (den : Int)
  | reduce

/-- The rate after a change; a change that fails leaves the rate as it was. -/
def Edit.apply (r : Rate) : Edit → Except SheetError Rate
  | .make num den => Rate.make num den
  | .setNum num => .ok (r.withNum num)
  | .setDen den => r.withDen den
  | .reduce => .ok r.reduce

end Rate

end SongSheet
