import Mathlib.Algebra.Order.Ring.Unbundled.Rat
import Mathlib.Data.Rat.Lemmas
import SongSheet.Score

/-!
# Rates and what they are worth

`Rate.reduce` divides two fields by a divisor; a rate in lowest terms is something that a *value*
has, whatever the fields it came from. `Rate.ofRat` is the second reading, and the two agree as soon
as the denominator is positive (`reduce_eq_ofRat`). The sheets that can only say lowest terms are
specified by the second.
-/

set_option autoImplicit false

namespace SongSheet

namespace Rate

/-- A value as a rate, in lowest terms. -/
def ofRat (q : Rat) : Rate := ⟨q.num, q.den, Int.natCast_ne_zero.mpr q.den_nz⟩

theorem divisor_cast_pos (r : Rate) : (0 : Int) < r.divisor := Int.natCast_pos.mpr r.divisor_pos

/-! ## Lowest terms

Nothing is rounded when both fields are divided, whatever their signs. -/

theorem num_eq_divisor_mul (r : Rate) : r.num = r.divisor * r.reduce.num :=
  (Int.mul_ediv_cancel' r.divisor_dvd_num).symm

theorem den_eq_divisor_mul (r : Rate) : r.den = r.divisor * r.reduce.den :=
  (Int.mul_ediv_cancel' r.divisor_dvd_den).symm

theorem value_reduce (r : Rate) : r.reduce.value = r.value := by
  rw [value, value, r.num_eq_divisor_mul, r.den_eq_divisor_mul,
    Rat.divInt_mul_left r.divisor_cast_pos.ne']

theorem sign_den_reduce (r : Rate) : r.reduce.den.sign = r.den.sign := by
  rw [r.den_eq_divisor_mul, Int.sign_mul, Int.sign_eq_one_of_pos r.divisor_cast_pos, one_mul]

theorem divisor_reduce (r : Rate) : r.reduce.divisor = 1 := by
  have hpos : 0 < Int.gcd r.num r.den := r.divisor_eq_gcd ▸ r.divisor_pos
  have hgcd : Int.gcd (r.num / Int.gcd r.num r.den) (r.den / Int.gcd r.num r.den) = 1 :=
    Int.gcd_ediv_gcd_ediv_gcd hpos
  rw [← divisor_eq_gcd] at hgcd
  exact r.reduce.divisor_eq_gcd.trans hgcd

/-- What is in lowest terms stays as it is. -/
theorem reduce_reduce (r : Rate) : r.reduce.reduce = r.reduce := by
  have hnum : r.reduce.reduce.num = r.reduce.num := by
    show r.reduce.num / r.reduce.divisor = _
    rw [divisor_reduce, Nat.cast_one, Int.ediv_one]
  have hden : r.reduce.reduce.den = r.reduce.den := by
    show r.reduce.den / r.reduce.divisor = _
    rw [divisor_reduce, Nat.cast_one, Int.ediv_one]
  calc r.reduce.reduce
      = ⟨r.reduce.reduce.num, r.reduce.reduce.den, r.reduce.reduce.den_ne_zero⟩ := rfl
    _ = r.reduce := by simp only [hnum, hden]

/-! ## The value's own fields -/

/-- **Both fields divided by their divisor are the value's own fields**, as long as the denominator
is positive: with a negative one the signs stay where they are. -/
theorem reduce_eq_ofRat {r : Rate} (h : 0 < r.den) : r.reduce = ofRat r.value := by
  have hgcd : Int.gcd r.den r.num = r.divisor := by rw [r.divisor_eq_gcd, Int.gcd_comm]
  have hnum : r.reduce.num = r.value.num := by
    rw [value, Rat.num_divInt, Int.sign_eq_one_of_pos h, one_mul, hgcd]
    rfl
  have hden : r.reduce.den = r.value.den := by
    rw [value, Rat.den_divInt, if_neg h.ne', hgcd, Int.natCast_ediv, Int.natAbs_of_nonneg h.le]
    rfl
  calc r.reduce = ⟨r.reduce.num, r.reduce.den, r.reduce.den_ne_zero⟩ := rfl
    _ = ofRat r.value := by simp only [ofRat, hnum, hden]

theorem reduce_num_pos {r : Rate} : 0 < r.reduce.num ↔ 0 < r.num := by
  obtain ⟨k, hk⟩ := r.divisor_dvd_num
  have hpos := r.divisor_cast_pos
  have hnum : r.reduce.num = k := by
    change r.num / r.divisor = k
    rw [hk, Int.mul_ediv_cancel_left k hpos.ne']
  rw [hnum, hk]
  exact ⟨fun h => Int.mul_pos hpos h, fun h => Int.pos_of_mul_pos_right h hpos⟩

theorem reduce_den_pos {r : Rate} (h : 0 < r.den) : 0 < r.reduce.den := by
  rw [reduce_eq_ofRat h]
  exact Int.natCast_pos.mpr r.value.den_pos

theorem value_pos {r : Rate} (h : 0 < r.den) : 0 < r.value ↔ 0 < r.num := by
  rw [← Rat.num_pos, ← reduce_num_pos, reduce_eq_ofRat h]
  rfl

end Rate

/-- A beat takes time: its rate is positive. -/
def Beat.Lasts (b : Beat) : Prop := 0 < b.rate.value

instance (b : Beat) : Decidable b.Lasts := inferInstanceAs (Decidable (0 < b.rate.value))

theorem Beat.lasts_iff {b : Beat} (h : 0 < b.rate.den) : b.Lasts ↔ 0 < b.rate.num :=
  Rate.value_pos h

end SongSheet
