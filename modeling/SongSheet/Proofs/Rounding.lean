import Mathlib.Algebra.Order.Field.Basic
import Mathlib.Algebra.Order.Ring.Abs
import Mathlib.Data.Rat.Lemmas
import Mathlib.Tactic.Linarith
import SongSheet.Number.Rounding

/-!
# What a rounded value is

`RoundsTo` says which integer a value is rounded to: one within half a unit of it, and the even one
where two are. **There is one such integer, and greater values have no smaller one**
(`RoundsTo.mono`, `RoundsTo.unique`); it is the one that `roundHalfEven` computes
(`roundsTo_roundHalfEven`).
-/

set_option autoImplicit false

namespace SongSheet

/-- An integer is nearest to a value, and is even where another one is as near. -/
structure RoundsTo (q : Rat) (n : Int) : Prop where
  near : |q - n| ≤ 1 / 2
  even : |q - n| = 1 / 2 → Even n

namespace RoundsTo

variable {p q : Rat} {m n : Int}

/-- **Rounding keeps the order of values.** -/
theorem mono (hp : RoundsTo p m) (hq : RoundsTo q n) (h : p ≤ q) : m ≤ n := by
  by_contra hlt
  have hstep : (n : Rat) + 1 ≤ m := by exact_mod_cast not_le.mp hlt
  obtain ⟨hpl, hpu⟩ := abs_le.mp hp.near
  obtain ⟨hql, hqu⟩ := abs_le.mp hq.near
  -- Both values are halfway between the two integers, which follow each other and are even.
  have hpm : |p - m| = 1 / 2 := by
    rw [show p - m = -(1 / 2) by linarith, abs_neg, abs_of_pos one_half_pos]
  have hqn : |q - n| = 1 / 2 := by
    rw [show q - n = 1 / 2 by linarith, abs_of_pos one_half_pos]
  have hnext : (m : Rat) = (n + 1 : Int) := by
    push_cast
    linarith
  obtain ⟨i, hi⟩ := hp.even hpm
  obtain ⟨j, hj⟩ := hq.even hqn
  have hmn : m = n + 1 := by exact_mod_cast hnext
  omega

theorem unique (hm : RoundsTo q m) (hn : RoundsTo q n) : m = n :=
  le_antisymm (hm.mono hn le_rfl) (hn.mono hm le_rfl)

/-- An integer is rounded to itself. -/
theorem ofInt (n : Int) : RoundsTo n n where
  near := by rw [sub_self, abs_zero]; exact one_half_pos.le
  even := by
    intro h
    rw [sub_self, abs_zero] at h
    exact absurd h one_half_pos.ne

end RoundsTo

/-- Halfway between two integers, the even one is taken. -/
theorem even_roundHalfEven {num : Int} {den : Nat} (h : 0 < den)
    (htie : 2 * (num - roundHalfEven num den * den) = den
      ∨ 2 * (roundHalfEven num den * den - num) = den) : Even (roundHalfEven num den) := by
  have hd : (max (den : Int) 1) = den := by omega
  have hmul := Int.mul_ediv_add_emod num den
  have hlt := Int.emod_lt_of_pos num (show (0 : Int) < den by omega)
  have hnn := Int.emod_nonneg num (show (den : Int) ≠ 0 by omega)
  have hquotient : num / (den : Int) * den = den * (num / den) := Int.mul_comm _ _
  have hnext : (num / (den : Int) + 1) * den = den * (num / den) + den := by
    rw [Int.add_mul, Int.one_mul, Int.mul_comm]
  rw [Int.even_iff]
  simp only [roundHalfEven, hd] at htie ⊢
  split
  case isTrue hbelow =>
    rw [if_pos hbelow, hquotient] at htie
    omega
  case isFalse hbelow =>
    rw [if_neg hbelow] at htie
    split
    case isTrue habove =>
      rw [if_pos habove, hnext] at htie
      omega
    case isFalse =>
      split
      case isTrue heven => exact heven
      case isFalse hodd => omega

/-- **The rounded quotient of a value's fields is what the value is rounded to.** -/
theorem roundsTo_roundHalfEven (q : Rat) : RoundsTo q (roundHalfEven q.num q.den) := by
  have hden : (0 : Rat) < q.den := by exact_mod_cast q.den_pos
  generalize hn : roundHalfEven q.num q.den = n
  have hfields : (q - n) * q.den = q.num - n * q.den := by rw [sub_mul, Rat.mul_den_eq_num]
  obtain ⟨hupper, hlower⟩ := roundHalfEven_near q.num q.den_pos
  rw [hn] at hupper hlower
  have hu : 2 * ((q.num : Rat) - n * q.den) ≤ q.den := by exact_mod_cast hupper
  have hl : 2 * ((n : Rat) * q.den - q.num) ≤ q.den := by exact_mod_cast hlower
  constructor
  · refine abs_le.mpr ⟨le_of_mul_le_mul_right ?_ hden, le_of_mul_le_mul_right ?_ hden⟩
    · linarith
    · linarith
  · intro htie
    rw [← hn]
    refine even_roundHalfEven q.den_pos ?_
    rw [hn]
    rcases (abs_eq one_half_pos.le).mp htie with hhalf | hhalf
    · left
      rw [hhalf] at hfields
      have htwice : 2 * ((q.num : Rat) - n * q.den) = q.den := by linarith
      exact_mod_cast htwice
    · right
      rw [hhalf] at hfields
      have htwice : 2 * ((n : Rat) * q.den - q.num) = q.den := by linarith
      exact_mod_cast htwice

end SongSheet
