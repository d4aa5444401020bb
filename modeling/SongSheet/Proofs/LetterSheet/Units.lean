import Mathlib.Algebra.Order.Field.Rat
import Mathlib.Data.Rat.Lemmas
import Mathlib.Tactic.Ring
import SongSheet.LetterSheet
import SongSheet.Proofs.Rate

/-!
# The units of a letter sheet

A letter sheet counts in whole units, and its writer picks the unit from *all* beats, also from
those it then leaves out. Said for values: the number of units to a beat is the least common
multiple of their denominators (`commonDenominator`), every beat is a whole number of these units
(`unitsOf_exact`), and so **the writer never refuses a rate** (`units_eq`).
-/

set_option autoImplicit false

namespace SongSheet.LetterSheet

/-- The least common multiple of the denominators of what rates are worth. -/
def commonDenominator (beats : List Beat) : Nat :=
  (beats.map (·.rate.value.den)).foldr Nat.lcm 1

/-- How many units a beat takes, of which there are so many to the reference beat. -/
def unitsOf (unitsPerBeat : Nat) (b : Beat) : Int := ((unitsPerBeat : Rat) * b.rate.value).num

theorem foldl_lcm (f : Beat → Nat) (beats : List Beat) (start : Nat) :
    beats.foldl (fun units b => Nat.lcm units (f b)) start
      = Nat.lcm start ((beats.map f).foldr Nat.lcm 1) := by
  induction beats generalizing start with
  | nil => simp
  | cons b beats ih =>
    rw [List.foldl_cons, ih, List.map_cons, List.foldr_cons, Nat.lcm_assoc]

theorem unitsPerBeat_eq {beats : List Beat} (h : ∀ b ∈ beats, 0 < b.rate.den) :
    unitsPerBeat beats = commonDenominator beats := by
  have hmap : beats.map (fun b => b.rate.reduce.den.natAbs) = beats.map (·.rate.value.den) := by
    refine List.map_congr_left fun b hb => ?_
    rw [Rate.reduce_eq_ofRat (h b hb)]
    rfl
  rw [unitsPerBeat, foldl_lcm fun b => b.rate.reduce.den.natAbs, hmap, commonDenominator,
    Nat.lcm_comm, Nat.lcm_one_right]

theorem den_dvd_commonDenominator {beats : List Beat} {b : Beat} (hb : b ∈ beats) :
    b.rate.value.den ∣ commonDenominator beats := by
  rw [commonDenominator]
  induction beats with
  | nil => cases hb
  | cons c beats ih =>
    rw [List.map_cons, List.foldr_cons]
    rcases List.mem_cons.mp hb with rfl | hb
    · exact Nat.dvd_lcm_left _ _
    · exact (ih hb).trans (Nat.dvd_lcm_right _ _)

theorem commonDenominator_pos (beats : List Beat) : 0 < commonDenominator beats := by
  rw [commonDenominator]
  induction beats with
  | nil => exact Nat.one_pos
  | cons b beats ih => exact Nat.lcm_pos b.rate.value.den_pos ih

/-- A multiple of a denominator makes a value whole. -/
theorem den_mul_eq_one {n : Nat} {q : Rat} (h : q.den ∣ n) : ((n : Rat) * q).den = 1 := by
  obtain ⟨k, rfl⟩ := h
  have hwhole : ((q.den * k : Nat) : Rat) * q = ((k * q.num : Int) : Rat) := by
    have hden := Rat.mul_den_eq_num q
    push_cast
    calc (q.den : Rat) * k * q = k * (q * q.den) := by ring
      _ = k * q.num := by rw [hden]
  rw [hwhole]
  exact Rat.den_intCast _

/-- **Every beat of a score is a whole number of its units.** -/
theorem unitsOf_exact {beats : List Beat} {b : Beat} (hb : b ∈ beats) :
    (unitsOf (commonDenominator beats) b : Rat) = commonDenominator beats * b.rate.value := by
  have hden := den_mul_eq_one (den_dvd_commonDenominator hb)
  have hnum := Rat.num_div_den ((commonDenominator beats : Rat) * b.rate.value)
  rw [hden] at hnum
  simpa [unitsOf] using hnum

/-- A beat takes units exactly when it takes time. -/
theorem unitsOf_pos {n : Nat} {b : Beat} (hn : 0 < n) : 0 < unitsOf n b ↔ b.Lasts := by
  have hn : (0 : Rat) < n := by exact_mod_cast hn
  rw [unitsOf, Rat.num_pos, Beat.Lasts]
  exact mul_pos_iff_of_pos_left hn

theorem value_withNum (r : Rate) (n : Nat) : (r.withNum (r.num * n)).value = n * r.value := by
  simp only [Rate.value, Rate.withNum, Rat.divInt_eq_div]
  push_cast
  ring

/-- The writer finds the number of units, and that it is whole. -/
theorem units_eq {n : Nat} {b : Beat} (hden : 0 < b.rate.den) (h : b.rate.value.den ∣ n) :
    units n b.rate = .ok (unitsOf n b) := by
  have hreduce : (b.rate.withNum (b.rate.num * n)).reduce = .ofRat (n * b.rate.value) := by
    rw [← value_withNum]
    exact Rate.reduce_eq_ofRat hden
  have hone : (Rate.ofRat (n * b.rate.value)).den = 1 := congrArg Nat.cast (den_mul_eq_one h)
  rw [units, hreduce, if_pos hone]
  rfl

end SongSheet.LetterSheet
