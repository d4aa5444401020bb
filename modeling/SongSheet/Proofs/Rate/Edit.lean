import SongSheet.Proofs.Rate

/-!
# Rates under change

A rate is made, its fields are set one by one, and it is brought to lowest terms, in any order and
with any integers. What a change asks for are two fields (`Edit.fields`), and **it is refused
exactly when the denominator among them is zero** (`apply_eq_error_iff`); a refused change changes
nothing.

Lowest terms are never refused. They rest on Euclid's algorithm: its loop is given here as a
relation that has no answer where the loop does not end, and **it ends from every two numbers, with
the one that `euclid` gives** (`euclidEnds_iff`).
-/

set_option autoImplicit false

namespace SongSheet.Rate

/-! ## 1. The loop of Euclid's algorithm -/

/-- From two numbers the loop ends, turn by turn, with a last one. -/
inductive EuclidEnds : Nat → Nat → Nat → Prop
  | done (big : Nat) : EuclidEnds big 0 big
  | turn {big small last : Nat} (hsmall : small ≠ 0) (hnext : EuclidEnds small (big % small) last) :
    EuclidEnds big small last

theorem euclidEnds_euclid (big small : Nat) : EuclidEnds big small (euclid big small) := by
  fun_induction euclid big small with
  | case1 big => exact .done big
  | case2 big small hsmall ih => exact .turn hsmall ih

/-- **The loop ends, and in one way.** -/
theorem euclidEnds_iff {big small last : Nat} :
    EuclidEnds big small last ↔ last = euclid big small := by
  constructor
  · intro h
    induction h with
    | done big => rw [euclid, if_pos rfl]
    | turn hsmall hnext ih =>
      conv_rhs => rw [euclid, if_neg hsmall]
      exact ih
  · rintro rfl
    exact euclidEnds_euclid big small

/-- One rate is another with both fields divided by a number, without a remainder, and is in lowest
terms. -/
structure IsReducedBy (divisor : Nat) (r reduced : Rate) : Prop where
  divisor_pos : 0 < divisor
  num : r.num = divisor * reduced.num
  den : r.den = divisor * reduced.den
  value : reduced.value = r.value
  sign : reduced.den.sign = r.den.sign
  coprime : Nat.gcd reduced.num.natAbs reduced.den.natAbs = 1

theorem isReducedBy_reduce (r : Rate) : IsReducedBy r.divisor r r.reduce where
  divisor_pos := r.divisor_pos
  num := r.num_eq_divisor_mul
  den := r.den_eq_divisor_mul
  value := r.value_reduce
  sign := r.sign_den_reduce
  coprime := r.reduce.divisor_eq_gcd.symm.trans r.divisor_reduce

/-! ## 2. One change -/

namespace Edit

/-- The fields that a change asks for. -/
def fields (r : Rate) : Edit → Int × Int
  | .make num den => (num, den)
  | .setNum num => (num, r.den)
  | .setDen den => (r.num, den)
  | .reduce => (r.num / r.divisor, r.den / r.divisor)

variable {r r' : Rate} {edit : Edit} {e : SheetError}

theorem make_eq_error_iff {num den : Int} :
    Rate.make num den = .error e ↔ den = 0 ∧ e = .zeroDenominator := by
  rw [Rate.make]
  split
  case isTrue h => simp [h, eq_comm]
  case isFalse h => simp [h]

theorem make_eq_ok_iff {num den : Int} :
    Rate.make num den = .ok r ↔ den ≠ 0 ∧ (r.num, r.den) = (num, den) := by
  rw [Rate.make]
  split
  case isTrue h => simp [h]
  case isFalse h =>
    rw [Except.ok.injEq, and_iff_right h, Prod.mk.injEq]
    constructor
    · rintro rfl
      exact ⟨rfl, rfl⟩
    · rintro ⟨rfl, rfl⟩
      rfl

theorem make_self (r : Rate) : Rate.make r.num r.den = .ok r := dif_neg r.den_ne_zero

/-- Whatever a change is, it is the making of a rate with the fields it asks for. -/
theorem apply_eq_make (r : Rate) (edit : Edit) :
    edit.apply r = Rate.make (edit.fields r).1 (edit.fields r).2 := by
  cases edit with
  | make num den => rfl
  | setNum num => exact (make_self (r.withNum num)).symm
  | setDen den => rfl
  | reduce => exact (make_self r.reduce).symm

/-- **A change is refused exactly when it asks for a denominator of zero.** -/
theorem apply_eq_error_iff :
    edit.apply r = .error e ↔ (edit.fields r).2 = 0 ∧ e = .zeroDenominator := by
  rw [apply_eq_make, make_eq_error_iff]

/-- Any other change gives the fields that it asks for. -/
theorem apply_eq_ok_iff :
    edit.apply r = .ok r' ↔ (edit.fields r).2 ≠ 0 ∧ (r'.num, r'.den) = edit.fields r := by
  rw [apply_eq_make, make_eq_ok_iff]

end Edit

/-! ## 3. A run of changes -/

/-- The rate after a change, and as it was after a refused one. -/
def after (r : Rate) (edit : Edit) : Rate :=
  match edit.apply r with
  | .ok r' => r'
  | .error _ => r

/-- The rate after changes one after the other. -/
def run (r : Rate) (edits : List Edit) : Rate := edits.foldl after r

theorem run_concat (r : Rate) (edits : List Edit) (edit : Edit) :
    r.run (edits ++ [edit]) = (r.run edits).after edit := List.foldl_append

/-- The fields after a change: those it asks for, if it can have them. -/
theorem fields_after (r : Rate) (edit : Edit) : ((r.after edit).num, (r.after edit).den)
    = if (edit.fields r).2 = 0 then (r.num, r.den) else edit.fields r := by
  split
  case isTrue h => rw [after, Edit.apply_eq_error_iff.mpr ⟨h, rfl⟩]
  case isFalse h =>
    cases happly : edit.apply r with
    | error e => exact absurd (Edit.apply_eq_error_iff.mp happly).1 h
    | ok r' =>
      rw [after, happly]
      exact (Edit.apply_eq_ok_iff.mp happly).2

/-- **Whatever was done to a rate, its denominator is not zero, what asks for that is refused and
changes nothing, and it can be brought to lowest terms**: the loop that finds the divisor ends, both
fields are divided by it exactly, and doing so again changes nothing. -/
theorem run_exact (num den : Int) (edits : List Edit) :
    SheetError.zeroDenominator.kind = .outOfRange
      ∧ (∀ e, Rate.make num den = .error e ↔ den = 0 ∧ e = .zeroDenominator)
      ∧ ∀ start r, Rate.make num den = .ok start → start.run edits = r →
        (start.num, start.den) = (num, den)
        ∧ r.den ≠ 0
        ∧ (∀ (edit : Edit) e,
          edit.apply r = .error e ↔ (edit.fields r).2 = 0 ∧ e = .zeroDenominator)
        ∧ (∀ edit : Edit, ((start.run (edits ++ [edit])).num, (start.run (edits ++ [edit])).den)
          = if (edit.fields r).2 = 0 then (r.num, r.den) else edit.fields r)
        ∧ (∀ last, EuclidEnds (max r.num.natAbs r.den.natAbs) (min r.num.natAbs r.den.natAbs) last
          ↔ last = r.divisor)
        ∧ start.run (edits ++ [.reduce]) = r.reduce
        ∧ IsReducedBy r.divisor r r.reduce
        ∧ r.reduce.reduce = r.reduce := by
  refine ⟨rfl, fun e => Edit.make_eq_error_iff, ?_⟩
  rintro start r hmake rfl
  refine ⟨(Edit.make_eq_ok_iff.mp hmake).2, (start.run edits).den_ne_zero,
    fun edit e => Edit.apply_eq_error_iff, fun edit => ?_, fun last => euclidEnds_iff, ?_,
    isReducedBy_reduce _, reduce_reduce _⟩
  · rw [run_concat, fields_after]
  · rw [run_concat]
    rfl

/-- Two changes that are refused and two that are not. -/
def fourEdits : List Edit := [.setDen 0, .setNum 9, .make 1 0, .setDen (-6)]

theorem run_exact_sample : ∃ start r, Rate.make (-5) 4 = .ok start ∧ start.run fourEdits = r
    ∧ (r.num, r.den) = (9, -6) ∧ (r.reduce.num, r.reduce.den) = (3, -2)
    ∧ (∀ e, (Edit.setDen 0).apply r = .error e ↔ e = .zeroDenominator)
    ∧ EuclidEnds 9 6 r.divisor
    ∧ start.run (fourEdits ++ [.reduce]) = r.reduce
    ∧ IsReducedBy r.divisor r r.reduce
    ∧ r.reduce.reduce = r.reduce := by
  let start : Rate := { num := -5, den := 4 }
  let r : Rate := { num := 9, den := -6 }
  have hmake : Rate.make (-5) 4 = .ok start := rfl
  have hrun : start.run fourEdits = r := rfl
  obtain ⟨-, -, hall⟩ := run_exact (-5) 4 fourEdits
  obtain ⟨-, -, hrefused, -, hends, hreduce, hreduced, hagain⟩ := hall start r hmake hrun
  refine ⟨start, r, hmake, hrun, rfl, by decide +kernel, ?_, (hends _).mpr rfl, hreduce, hreduced,
    hagain⟩
  intro e
  rw [hrefused]
  exact and_iff_right rfl

end SongSheet.Rate
