/-!
# Rounding a quotient

One rule serves ticks, tempos and floating-point numbers: the nearest integer, and of two nearest
ones the even one.
-/

set_option autoImplicit false

namespace SongSheet

/-- The integer nearest to `num / den`, a tie going to the even neighbour. `den` counts as one when
it is zero. -/
def roundHalfEven (num : Int) (den : Nat) : Int :=
  let den : Int := max den 1
  let quotient := num / den
  let twice := 2 * (num % den)
  if twice < den then quotient
  else if den < twice then quotient + 1
  else if quotient % 2 = 0 then quotient
  else quotient + 1

/-- The rounded value is within half a unit of the quotient. -/
theorem roundHalfEven_near (num : Int) {den : Nat} (h : 0 < den) :
    2 * (num - roundHalfEven num den * den) ≤ den ∧
      2 * (roundHalfEven num den * den - num) ≤ den := by
  have hd : (max (den : Int) 1) = den := by omega
  have hmul := Int.mul_ediv_add_emod num den
  have hlt := Int.emod_lt_of_pos num (show (0 : Int) < den by omega)
  have hnn := Int.emod_nonneg num (show (den : Int) ≠ 0 by omega)
  have e1 : num / (den : Int) * den = den * (num / den) := Int.mul_comm _ _
  have e2 : (num / (den : Int) + 1) * den = den * (num / den) + den := by
    rw [Int.add_mul, Int.one_mul, Int.mul_comm]
  simp only [roundHalfEven, hd]
  split
  · rw [e1]; omega
  · split
    · rw [e2]; omega
    · split
      · rw [e1]; omega
      · rw [e2]; omega

end SongSheet
