import Mathlib.Data.Rat.Floor
import Mathlib.Tactic.Linarith
import SongSheet.Proofs.KeyLayout
import SongSheet.Proofs.Placement

/-!
# Strokes on the right keys at the right time

The keys of a stroke are the only ones that sound its tones, as no two keys of a layout sound alike,
and its delay is the exact time of its beat, rounded down. A transposition that is found leaves
nothing to refuse, so **a score is placed exactly when it has a tempo and a transposition, and in
one way** (`place_exact`).

Every delay falls short of the exact time by less than a millisecond, and none exceeds it. Hence
strokes are never late, and a stroke is early by less than a millisecond for each one before it
(`fallsShort_delays`).
-/

set_option autoImplicit false

namespace SongSheet.Placement

/-! ## 1. Delays -/

/-- The exact time that a beat takes, in milliseconds. -/
def duration (bpm : Int) (rate : Rate) : Rat := 60000 * rate.num / (bpm * rate.den)

/-- The exact time at which the beat with an index starts, in milliseconds. -/
def onset (score : Score) (index : Nat) : Rat :=
  ((score.beats.take index).map fun b => duration score.bpm b.rate).sum

/-- A quotient rounded down is the floor of the quotient, whatever the signs. -/
theorem fdiv_eq_floor (a b : Int) : Int.fdiv a b = ⌊(a : Rat) / b⌋ := by
  obtain ⟨n, rfl | rfl⟩ := b.eq_nat_or_neg
  · rw [Int.fdiv_eq_ediv_of_nonneg a (Int.natCast_nonneg n), Int.cast_natCast,
      Rat.floor_intCast_div_natCast]
  · -- Both signs are turned.
    have hcast : (a : Rat) / ((-n : Int) : Rat) = ((-a : Int) : Rat) / n := by
      rw [Int.cast_neg, Int.cast_natCast, div_neg, Int.cast_neg, neg_div]
    rw [hcast, Rat.floor_intCast_div_natCast, ← Int.fdiv_eq_ediv_of_nonneg _ (Int.natCast_nonneg n),
      ← Int.neg_fdiv_neg, neg_neg]

theorem delay_eq_floor (bpm : Int) (rate : Rate) : delay bpm rate = ⌊duration bpm rate⌋ := by
  rw [delay, fdiv_eq_floor, duration, Score.msPerMinute]
  push_cast
  rw [mul_comm (rate.num : Rat)]

/-- A whole number of milliseconds does not exceed an exact time, and falls short of it by less than
a bound. -/
structure FallsShort (total : Int) (exact : Rat) (bound : Nat) : Prop where
  le : (total : Rat) ≤ exact
  lt : exact - total < bound

namespace FallsShort

variable {total total' : Int} {exact exact' : Rat} {bound bound' : Nat}

theorem add (h : FallsShort total exact bound) (h' : FallsShort total' exact' bound') :
    FallsShort (total + total') (exact + exact') (bound + bound') := by
  have hle := h.le
  have hlt := h.lt
  have hle' := h'.le
  have hlt' := h'.lt
  constructor
  · push_cast
    linarith
  · push_cast
    linarith

theorem mono (h : FallsShort total exact bound) (hle : bound ≤ bound') :
    FallsShort total exact bound' :=
  ⟨h.le, h.lt.trans_le (Nat.cast_le.mpr hle)⟩

end FallsShort

theorem fallsShort_delay (bpm : Int) (rate : Rate) :
    FallsShort (delay bpm rate) (duration bpm rate) 1 := by
  rw [delay_eq_floor]
  constructor
  · exact Int.floor_le _
  · have hlt := Int.lt_floor_add_one (duration bpm rate)
    push_cast
    linarith

/-- **Delays one after the other fall short by less than one each.** -/
theorem fallsShort_delays (bpm : Int) (b : Beat) (bs : List Beat) :
    FallsShort ((b :: bs).map fun b => delay bpm b.rate).sum
      ((b :: bs).map fun b => duration bpm b.rate).sum (b :: bs).length := by
  induction bs generalizing b with
  | nil => simpa using fallsShort_delay bpm b.rate
  | cons c bs ih =>
    rw [List.map_cons, List.sum_cons, List.map_cons, List.sum_cons, List.length_cons, Nat.add_comm]
    exact (fallsShort_delay bpm b.rate).add (ih c)

/-- No matter how many beats there are, the delays of the first ones fall short by less than their
number. -/
theorem fallsShort_onset (score : Score) {k : Nat} (hk : 1 ≤ k) :
    FallsShort ((score.beats.take k).map fun b => delay score.bpm b.rate).sum
      (onset score k) k := by
  rw [onset]
  cases hbeats : score.beats.take k with
  | nil => exact ⟨by simp, by simpa using Nat.pos_of_ne_zero (Nat.one_le_iff_ne_zero.mp hk)⟩
  | cons b bs =>
    have hlength : (b :: bs).length ≤ k := hbeats ▸ List.length_take_le ..
    exact (fallsShort_delays score.bpm b bs).mono hlength

/-! ## 2. Strokes -/

/-- The stroke of a beat under a shift, exactly: for every tone the only key of its pitch, and the
time of the beat rounded down. -/
structure IsExactStrokeOf (score : Score) (layout : KeyLayout) (shift : Int) (b : Beat)
    (s : Stroke) : Prop where
  keys : List.Forall₂ (fun tone key => layout.IsOnlyKeyOf (tone + score.keyNote + shift) key)
    b.tones s.keys
  delay : s.delay = ⌊(60000 * b.rate.num : Rat) / (score.bpm * b.rate.den)⌋

variable {score : Score} {layout : KeyLayout} {shift : Int} {b : Beat} {s : Stroke}

theorem IsStrokeOf.exact (h : IsStrokeOf score layout shift b s) :
    IsExactStrokeOf score layout shift b s where
  keys := h.keys.imp fun _ _ => KeyLayout.isOnlyKeyOf_iff.mpr
  delay := h.delay.trans (delay_eq_floor score.bpm b.rate)

theorem IsStrokeOf.sum_take_delay {bs : List Beat} {strokes : List Stroke}
    (h : List.Forall₂ (IsStrokeOf score layout shift) bs strokes) (k : Nat) :
    ((strokes.take k).map (·.delay)).sum
      = ((bs.take k).map fun b => Placement.delay score.bpm b.rate).sum := by
  have hdelays : strokes.map (·.delay) = bs.map fun b => Placement.delay score.bpm b.rate := by
    rw [eq_comm, ← List.forall₂_eq_eq_eq, List.forall₂_map_left_iff, List.forall₂_map_right_iff]
    exact h.imp fun _ _ hs => hs.delay.symm
  rw [List.map_take, hdelays, List.map_take]

theorem error_of_transposition {e : SheetError} (h : transposition score layout = .error e) :
    e = .missingKey := by
  by_cases hk : layout.keyCount = 0
  · rw [transposition_of_no_key hk] at h
    exact (Except.error.inj h).symm
  by_cases hs : Silent score
  · rw [transposition_of_silent hk hs] at h
    cases h
  · rcases transposition_of_sounding hk hs with ⟨shift, hok, -⟩ | ⟨herror, -⟩
    · rw [hok] at h
      cases h
    · rw [herror] at h
      exact (Except.error.inj h).symm

/-- A score is refused for its tempo, or for want of a transposition, and for nothing else. -/
theorem place_eq_error_iff {e : SheetError} : place score layout = .error e
    ↔ score.bpm ≤ 0 ∧ e = .bpmRange
      ∨ 0 < score.bpm ∧ e = .missingKey ∧ transposition score layout = .error .missingKey := by
  by_cases hbpm : score.bpm ≤ 0
  · rw [place, if_pos hbpm]
    simp [hbpm, hbpm.not_gt, eq_comm]
  · cases htransposition : transposition score layout with
    | ok shift =>
      obtain ⟨strokes, hplace, -⟩ := place_eq_ok (Int.not_le.mp hbpm) htransposition
      simp [hplace, hbpm]
    | error e' =>
      obtain rfl := error_of_transposition htransposition
      rw [place, if_neg hbpm, htransposition]
      simp [hbpm, Int.not_le.mp hbpm, eq_comm, bind, Except.bind]

/-- **Placing a score is exact.** Without a tempo it is refused; otherwise it fails exactly where
the search for a transposition does; and otherwise every beat has its stroke, on the only keys of
its pitches and for the time of the beat rounded down, whatever the signs. However many strokes
there are, what rounding takes from the first `k` of them is less than `k` milliseconds. -/
theorem place_exact (score : Score) (layout : KeyLayout) :
    (score.bpm ≤ 0 → place score layout = .error .bpmRange)
      ∧ SheetError.bpmRange.kind = .outOfRange
      ∧ (0 < score.bpm → ∀ e, place score layout = .error e
        ↔ e = .missingKey ∧ transposition score layout = .error .missingKey)
      ∧ (0 < score.bpm → ∀ shift, transposition score layout = .ok shift →
        ∃ strokes, place score layout = .ok ⟨shift, strokes⟩
          ∧ List.Forall₂ (IsExactStrokeOf score layout shift) score.beats strokes
          ∧ ∀ k, 1 ≤ k → FallsShort ((strokes.take k).map (·.delay)).sum (onset score k) k) := by
  refine ⟨fun hbpm => ?_, rfl, fun hbpm e => ?_, fun hbpm shift hshift => ?_⟩
  · exact place_eq_error_iff.mpr (.inl ⟨hbpm, rfl⟩)
  · rw [place_eq_error_iff]
    simp [hbpm, hbpm.not_ge]
  · obtain ⟨strokes, hplace, hstrokes⟩ := place_eq_ok hbpm hshift
    refine ⟨strokes, hplace, hstrokes.imp fun _ _ hs => hs.exact, fun k hk => ?_⟩
    rw [IsStrokeOf.sum_take_delay hstrokes]
    exact fallsShort_onset score hk

/-- Thirds of a beat, two of them written with signs. -/
def thirds : Score where
  keyNote := 1
  bpm := 7
  beats := [
    { rate := ⟨1, 3, by decide⟩, tones := [0, 4] },
    { rate := ⟨-1, -3, by decide⟩ },
    { rate := ⟨1, -3, by decide⟩, tones := [7] }]

/-- The naturals of an octave. -/
def octave : KeyLayout := { keys := List.replicate 8 .null }

/-- Their strokes on these. -/
def thirdsPlaced : Placement := ⟨4, [⟨[3, 5], 2857⟩, ⟨[], 2857⟩, ⟨[7], -2858⟩]⟩

theorem place_exact_sample : place { thirds with bpm := 0 } octave = .error .bpmRange
    ∧ 0 < thirds.bpm ∧ transposition thirds octave = .ok 4
    ∧ place thirds octave = .ok thirdsPlaced
    ∧ List.Forall₂ (IsExactStrokeOf thirds octave 4) thirds.beats thirdsPlaced.strokes
    ∧ FallsShort 5714 (onset thirds 2) 2 ∧ FallsShort 2856 (onset thirds 3) 3 := by
  have hpos : 0 < thirds.bpm := by decide
  have hshift : transposition thirds octave = .ok 4 := by decide
  obtain ⟨-, -, -, hplaced⟩ := place_exact thirds octave
  obtain ⟨strokes, hplace, hexact, hdrift⟩ := hplaced hpos 4 hshift
  have hstrokes : place thirds octave = .ok thirdsPlaced := by decide
  obtain rfl : strokes = thirdsPlaced.strokes :=
    congrArg Placement.strokes (Except.ok.inj (hplace.symm.trans hstrokes))
  exact ⟨(place_exact _ octave).1 (by decide), hpos, hshift, hplace, hexact, hdrift 2 (by decide),
    hdrift 3 (by decide)⟩

end SongSheet.Placement
