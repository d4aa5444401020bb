import Mathlib.Order.Bounds.Basic
import SongSheet.Placement

/-!
# Transposition — the search misses nothing

`Placement.transposition` looks at finitely many shifts: upwards from the one that aligns the
lowest pitches, then downwards from the one that aligns the highest. The claim it has to live up
to is about *all* integers:

> the smallest shift upwards that puts every pitch on a key, and only where there is none the
> greatest shift downwards that does.

Two facts carry it. A shift that fits lies between the two aligning shifts (`Fits.bounds`), so the
shifts outside the ranges are no loss; and the first hit in a list that is in order is the extreme
one (`find?_first`), so the order of trying is the preference. Neither depends on how the keys are
spaced.
-/

set_option autoImplicit false

namespace SongSheet

/-! ## 1. Keys and the pitches they sound -/

/-- The pitches of a layout are those of its keys. -/
theorem KeyLayout.mem_pitches {l : KeyLayout} {pitch : Int} :
    pitch ∈ l.pitches ↔ ∃ key < l.keyCount, l.keyPitch (key : Nat) = pitch := by
  simp [KeyLayout.pitches]

theorem KeyLayout.pitches_eq_nil {l : KeyLayout} : l.pitches = [] ↔ l.keyCount = 0 := by
  simp [KeyLayout.pitches]

namespace Placement

/-- A shift puts every pitch of a score on a key of a layout. -/
def Fits (score : Score) (layout : KeyLayout) (shift : Int) : Prop :=
  ∀ b ∈ score.beats, ∀ tone ∈ b.tones,
    ∃ key < layout.keyCount, layout.keyPitch (key : Nat) = tone + score.keyNote + shift

/-- No beat of a score sounds. -/
def Silent (score : Score) : Prop := ∀ b ∈ score.beats, b.tones = []

/-- No shift at all makes a score playable on a layout. -/
def Unplayable (score : Score) (layout : KeyLayout) : Prop :=
  layout.keyCount = 0 ∨ ¬ Silent score ∧ ∀ shift, ¬ Fits score layout shift

/-- The shift to be preferred among those that fit: the smallest upwards, and where none of these
fits the greatest downwards. -/
def IsPreferred (fits : Int → Prop) (shift : Int) : Prop :=
  IsLeast {d | 0 ≤ d ∧ fits d} shift
    ∨ (∀ d, 0 ≤ d → ¬ fits d) ∧ IsGreatest {d | d < 0 ∧ fits d} shift

theorem fits_iff {score : Score} {layout : KeyLayout} {shift : Int} :
    Fits score layout shift ↔ ∀ pitch ∈ score.pitches, pitch + shift ∈ layout.pitches := by
  simp only [Fits, Score.pitches, List.mem_flatMap, List.mem_map, KeyLayout.mem_pitches]
  constructor
  · rintro h _ ⟨b, hb, tone, ht, rfl⟩
    exact h b hb tone ht
  · intro h b hb tone ht
    exact h (tone + score.keyNote) ⟨b, hb, tone, ht, rfl⟩

theorem silent_iff {score : Score} : Silent score ↔ score.pitches = [] := by
  simp [Silent, Score.pitches, List.flatMap_eq_nil_iff]

/-- Only shifts between those that align the lowest and the highest pitches can fit. -/
theorem Fits.bounds {score : Score} {layout : KeyLayout} {shift low high lowKey highKey : Int}
    (h : Fits score layout shift) (hlow : low ∈ score.pitches) (hhigh : high ∈ score.pitches)
    (hmin : ∀ key ∈ layout.pitches, lowKey ≤ key) (hmax : ∀ key ∈ layout.pitches, key ≤ highKey) :
    lowKey - low ≤ shift ∧ shift ≤ highKey - high := by
  have hl := hmin _ (fits_iff.mp h low hlow)
  have hh := hmax _ (fits_iff.mp h high hhigh)
  constructor <;> omega

/-! ## 2. The first hit in an ordered list -/

theorem mem_ascending {low high n : Int} : n ∈ ascending low high ↔ low ≤ n ∧ n ≤ high := by
  simp only [ascending, List.mem_map, List.mem_range]
  constructor
  · rintro ⟨i, hi, rfl⟩
    omega
  · rintro ⟨hl, hh⟩
    exact ⟨(n - low).toNat, by omega, by omega⟩

theorem pairwise_ascending (low high : Int) : (ascending low high).Pairwise (· < ·) := by
  rw [ascending, List.pairwise_map]
  exact List.pairwise_lt_range.imp fun h => by omega

/-- Nothing that satisfies a test comes before the first hit. -/
theorem find?_first {α : Type} {r : α → α → Prop} {p : α → Bool} {xs : List α} {x y : α}
    (hr : xs.Pairwise r) (hx : xs.find? p = some x) (hy : y ∈ xs) (hp : p y = true) :
    x = y ∨ r x y := by
  induction xs with
  | nil => cases hy
  | cons z zs ih =>
    rw [List.pairwise_cons] at hr
    rw [List.find?_cons] at hx
    cases hz : p z with
    | true =>
      simp only [hz, Option.some.injEq] at hx
      subst hx
      rcases List.mem_cons.mp hy with rfl | hy
      · exact Or.inl rfl
      · exact Or.inr (hr.1 y hy)
    | false =>
      simp only [hz] at hx
      rcases List.mem_cons.mp hy with rfl | hy
      · rw [hz] at hp
        cases hp
      · exact ih hr.2 hx hy

/-- Trying upwards finds the smallest. -/
theorem find?_ascending {p : Int → Bool} {low high n : Int}
    (h : (ascending low high).find? p = some n) : IsLeast {d | low ≤ d ∧ d ≤ high ∧ p d} n := by
  obtain ⟨hl, hh⟩ := mem_ascending.mp (List.mem_of_find?_eq_some h)
  refine ⟨⟨hl, hh, List.find?_some h⟩, ?_⟩
  rintro d ⟨hld, hdh, hd⟩
  have hmem := mem_ascending.mpr ⟨hld, hdh⟩
  rcases find?_first (pairwise_ascending low high) h hmem hd with rfl | hlt
  · exact le_refl _
  · exact hlt.le

/-- Trying downwards finds the greatest. -/
theorem find?_descending {p : Int → Bool} {low high n : Int}
    (h : (ascending low high).reverse.find? p = some n) :
    IsGreatest {d | low ≤ d ∧ d ≤ high ∧ p d} n := by
  have hn := List.mem_of_find?_eq_some h
  obtain ⟨hl, hh⟩ := mem_ascending.mp (List.mem_reverse.mp hn)
  refine ⟨⟨hl, hh, List.find?_some h⟩, ?_⟩
  rintro d ⟨hld, hdh, hd⟩
  have hmem : d ∈ (ascending low high).reverse :=
    List.mem_reverse.mpr (mem_ascending.mpr ⟨hld, hdh⟩)
  rcases find?_first (List.pairwise_reverse.mpr (pairwise_ascending low high)) h hmem hd
    with rfl | hlt
  · exact le_refl _
  · exact hlt.le

/-! ## 3. The search -/

/-- The two searches after each other, for any test that holds between two bounds only: what is
found is preferred among *all* integers, and where nothing is found nothing satisfies the test. -/
theorem search_exact {p : Int → Bool} {least most : Int}
    (hb : ∀ d, p d = true → least ≤ d ∧ d ≤ most) :
    match (ascending (max 0 least) most).find? p,
      (ascending least (min (-1) most)).reverse.find? p with
    | some shift, _ | none, some shift => IsPreferred (fun d => p d = true) shift
    | none, none => ∀ d, p d = false := by
  split
  case h_1 shift _ h =>
    obtain ⟨⟨hl, hh, hp⟩, hmin⟩ := find?_ascending h
    refine Or.inl ⟨⟨by omega, hp⟩, ?_⟩
    rintro d ⟨hd0, hd⟩
    obtain ⟨hld, hdm⟩ := hb d hd
    exact hmin ⟨by omega, hdm, hd⟩
  case h_2 shift hup h =>
    obtain ⟨⟨hl, hh, hp⟩, hmax⟩ := find?_descending h
    -- Nothing upwards fits, or the first search would have met it.
    have hup : ∀ d, 0 ≤ d → ¬ p d = true := by
      intro d hd0 hd
      obtain ⟨hld, hdm⟩ := hb d hd
      exact List.find?_eq_none.mp hup d (mem_ascending.mpr ⟨by omega, hdm⟩) hd
    refine Or.inr ⟨hup, ⟨by omega, hp⟩, ?_⟩
    rintro d ⟨hd0, hd⟩
    obtain ⟨hld, hdm⟩ := hb d hd
    exact hmax ⟨hld, by omega, hd⟩
  case h_3 hup hdown =>
    intro d
    rw [← Bool.not_eq_true]
    intro hd
    obtain ⟨hld, hdm⟩ := hb d hd
    rcases le_or_gt 0 d with h0 | h0
    · exact List.find?_eq_none.mp hup d (mem_ascending.mpr ⟨by omega, hdm⟩) hd
    · have hmem : d ∈ (ascending least (min (-1) most)).reverse :=
        List.mem_reverse.mpr (mem_ascending.mpr ⟨hld, by omega⟩)
      exact List.find?_eq_none.mp hdown d hmem hd

theorem transposition_of_no_key {score : Score} {layout : KeyLayout} (h : layout.keyCount = 0) :
    transposition score layout = .error .missingKey := by
  rw [← KeyLayout.pitches_eq_nil] at h
  simp [transposition, h]

theorem transposition_of_silent {score : Score} {layout : KeyLayout} (hk : layout.keyCount ≠ 0)
    (hs : Silent score) : transposition score layout = .ok 0 := by
  rw [silent_iff] at hs
  rw [Ne, ← KeyLayout.pitches_eq_nil] at hk
  obtain ⟨lowKey, hlowKey⟩ := Option.isSome_iff_exists.mp (List.isSome_min?_of_ne_nil hk)
  obtain ⟨highKey, hhighKey⟩ := Option.isSome_iff_exists.mp (List.isSome_max?_of_ne_nil hk)
  simp [transposition, hs, hlowKey, hhighKey]

theorem transposition_of_sounding {score : Score} {layout : KeyLayout} (hk : layout.keyCount ≠ 0)
    (hs : ¬ Silent score) :
    (∃ shift, transposition score layout = .ok shift ∧ IsPreferred (Fits score layout) shift)
      ∨ transposition score layout = .error .missingKey ∧ ∀ shift, ¬ Fits score layout shift := by
  rw [silent_iff] at hs
  rw [Ne, ← KeyLayout.pitches_eq_nil] at hk
  have hne : score.pitches.eraseDups ≠ [] := by
    obtain ⟨p, hp⟩ := List.exists_mem_of_ne_nil _ hs
    exact List.ne_nil_of_mem (List.mem_eraseDups.mpr hp)
  obtain ⟨lowKey, hlowKey⟩ := Option.isSome_iff_exists.mp (List.isSome_min?_of_ne_nil hk)
  obtain ⟨highKey, hhighKey⟩ := Option.isSome_iff_exists.mp (List.isSome_max?_of_ne_nil hk)
  obtain ⟨low, hlow⟩ := Option.isSome_iff_exists.mp (List.isSome_min?_of_ne_nil hne)
  obtain ⟨high, hhigh⟩ := Option.isSome_iff_exists.mp (List.isSome_max?_of_ne_nil hne)
  -- The test that the search runs is `Fits`.
  have htest : ∀ shift, (score.pitches.eraseDups.all fun pitch =>
      layout.pitches.elem (pitch + shift)) = true ↔ Fits score layout shift := by
    intro shift
    simp [fits_iff]
  have hbounds : ∀ shift, (score.pitches.eraseDups.all fun pitch =>
      layout.pitches.elem (pitch + shift)) = true →
      lowKey - low ≤ shift ∧ shift ≤ highKey - high := by
    intro shift h
    exact ((htest shift).mp h).bounds (List.mem_eraseDups.mp (List.min?_mem hlow))
      (List.mem_eraseDups.mp (List.max?_mem hhigh)) (List.min?_eq_some_iff.mp hlowKey).2
      (List.max?_eq_some_iff.mp hhighKey).2
  have hsearch := search_exact hbounds
  simp only [htest] at hsearch
  simp only [transposition, hlowKey, hhighKey, hlow, hhigh]
  split
  case h_1 shift hup =>
    rw [hup] at hsearch
    exact Or.inl ⟨shift, rfl, hsearch⟩
  case h_2 hup =>
    split
    case h_1 shift hdown =>
      rw [hup, hdown] at hsearch
      exact Or.inl ⟨shift, rfl, hsearch⟩
    case h_2 hdown =>
      rw [hup, hdown] at hsearch
      refine Or.inr ⟨rfl, fun shift hf => ?_⟩
      exact Bool.false_ne_true ((hsearch shift).symm.trans ((htest shift).mpr hf))

theorem IsPreferred.satisfies {fits : Int → Prop} {shift : Int} (h : IsPreferred fits shift) :
    fits shift := by
  rcases h with h | ⟨-, h⟩
  · exact h.1.2
  · exact h.1.2

/-- A transposition that is found fits. -/
theorem fits_of_transposition {score : Score} {layout : KeyLayout} {shift : Int}
    (h : transposition score layout = .ok shift) : Fits score layout shift := by
  by_cases hk : layout.keyCount = 0
  · rw [transposition_of_no_key hk] at h
    cases h
  by_cases hs : Silent score
  · intro b hb tone ht
    rw [hs b hb] at ht
    cases ht
  · rcases transposition_of_sounding hk hs with ⟨shift', hok, hp⟩ | ⟨herr, -⟩
    · rw [hok] at h
      cases h
      exact hp.satisfies
    · rw [herr] at h
      cases h

/-- Where some shift fits, one is found. -/
theorem exists_transposition {score : Score} {layout : KeyLayout} {shift : Int}
    (hk : layout.keyCount ≠ 0) (h : Fits score layout shift) :
    ∃ found, transposition score layout = .ok found := by
  by_cases hs : Silent score
  · exact ⟨0, transposition_of_silent hk hs⟩
  · rcases transposition_of_sounding hk hs with ⟨found, hok, -⟩ | ⟨-, hnone⟩
    · exact ⟨found, hok⟩
    · exact absurd h (hnone shift)

/-- What fits as it is stays as it is. -/
theorem transposition_eq_zero {score : Score} {layout : KeyLayout} (hk : layout.keyCount ≠ 0)
    (h : Fits score layout 0) : transposition score layout = .ok 0 := by
  by_cases hs : Silent score
  · exact transposition_of_silent hk hs
  · rcases transposition_of_sounding hk hs with ⟨shift, hok, hpreferred⟩ | ⟨-, hnone⟩
    · rcases hpreferred with hleast | ⟨hnone, -⟩
      · have hzero : IsLeast {d | 0 ≤ d ∧ Fits score layout d} 0 :=
          ⟨⟨Int.le_refl 0, h⟩, fun d hd => hd.1⟩
        rw [hok, hleast.unique hzero]
      · exact absurd h (hnone 0 (Int.le_refl 0))
    · exact absurd h (hnone 0)

/-- **The search for a transposition is exact.** It fails only where no integer at all would do, and
what it finds is preferred among all integers. A silent score stays where it is. -/
theorem transposition_exact (score : Score) (layout : KeyLayout) :
    (transposition score layout = .error .missingKey ↔ Unplayable score layout) ∧
      (¬ Unplayable score layout → ∃ shift, transposition score layout = .ok shift ∧
        (Silent score → shift = 0) ∧
        (¬ Silent score → IsPreferred (Fits score layout) shift)) := by
  by_cases hk : layout.keyCount = 0
  · have hu : Unplayable score layout := Or.inl hk
    exact ⟨⟨fun _ => hu, fun _ => transposition_of_no_key hk⟩, fun h => absurd hu h⟩
  by_cases hs : Silent score
  · have hu : ¬ Unplayable score layout := by
      rintro (h | ⟨h, -⟩)
      · exact hk h
      · exact h hs
    have hok := transposition_of_silent hk hs
    refine ⟨⟨fun h => ?_, fun h => absurd h hu⟩,
      fun _ => ⟨0, hok, fun _ => rfl, fun h => absurd hs h⟩⟩
    rw [hok] at h
    cases h
  rcases transposition_of_sounding hk hs with ⟨shift, hok, hp⟩ | ⟨herr, hnone⟩
  · have hu : ¬ Unplayable score layout := by
      rintro (h | ⟨-, h⟩)
      · exact hk h
      · exact h shift hp.satisfies
    refine ⟨⟨fun h => ?_, fun h => absurd h hu⟩,
      fun _ => ⟨shift, hok, fun h => absurd h hs, fun _ => hp⟩⟩
    rw [hok] at h
    cases h
  · have hu : Unplayable score layout := Or.inr ⟨hs, hnone⟩
    exact ⟨⟨fun _ => hu, fun _ => herr⟩, fun h => absurd hu h⟩

end Placement

end SongSheet
