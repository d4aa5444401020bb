import SongSheet.Pitch

/-!
# Pitches by cases of the octave

A fact about a pitch and its place in the octave is a fact about twelve remainders. It is stated
here for the remainders, where it can be decided, and carried over to all integers by the quotient.
-/

set_option autoImplicit false

namespace SongSheet.Pitch

/-- The places in an octave. -/
theorem mod_mem_range (pitch : Int) : pitch % 12 ∈ (List.range 12).map Int.ofNat := by
  rw [List.mem_map]
  exact ⟨(pitch % 12).toNat, List.mem_range.mpr (by omega), by simp; omega⟩

/-- A natural of the first octave has the number of its place among the naturals. -/
theorem ofDegree_idxOf :
    ∀ natural ∈ naturals, ofDegree (naturals.idxOf natural : Nat) = natural := by
  decide

theorem idxOf_lt : ∀ natural ∈ naturals, naturals.idxOf natural < 7 := by decide

/-- What a natural number is made of: a place in the octave and an octave. -/
theorem ofDegree_mod_div (n : Int) :
    ofDegree n % 12 = naturals.getD (n % 7).toNat 0 ∧ ofDegree n / 12 = n / 7 := by
  have h : ∀ i < 7, 0 ≤ naturals.getD i 0 ∧ naturals.getD i 0 < 12 := by decide
  have hplace := h (n % 7).toNat (by omega)
  rw [ofDegree]
  omega

/-- Seven naturals on, the same natural stands an octave higher. -/
theorem ofDegree_add_octaves (n octaves : Int) :
    ofDegree (n + 7 * octaves) = ofDegree n + 12 * octaves := by
  have hmod : (n + 7 * octaves) % 7 = n % 7 := by omega
  have hdiv : (n + 7 * octaves) / 7 = n / 7 + octaves := by omega
  rw [ofDegree, ofDegree, hmod, hdiv]
  omega

theorem degree_ofDegree (n : Int) : degree (ofDegree n) = .ok n := by
  obtain ⟨hmod, hdiv⟩ := ofDegree_mod_div n
  have h : ∀ i < 7, naturals.elem (naturals.getD i 0) = true
      ∧ naturals.idxOf (naturals.getD i 0) = i := by decide
  obtain ⟨hmem, hidx⟩ := h (n % 7).toNat (by omega)
  rw [degree, isNatural, hmod, if_pos hmem, hidx, hdiv]
  congr 1
  omega

theorem ofDegree_of_degree {pitch n : Int} (h : degree pitch = .ok n) : ofDegree n = pitch := by
  rw [degree] at h
  split at h
  case isFalse => cases h
  case isTrue hnat =>
    have hmem : pitch % 12 ∈ naturals := List.elem_iff.mp hnat
    have hlt := idxOf_lt _ hmem
    have hplace : naturals.getD (naturals.idxOf (pitch % 12)) 0 = pitch % 12 := by
      have h0 := ofDegree_idxOf _ hmem
      rw [ofDegree] at h0
      have hsmall : ((naturals.idxOf (pitch % 12) : Nat) : Int) % 7
          = (naturals.idxOf (pitch % 12) : Nat) := by omega
      have hzero : ((naturals.idxOf (pitch % 12) : Nat) : Int) / 7 = 0 := by omega
      rw [hsmall, hzero, Int.toNat_natCast] at h0
      omega
    obtain rfl := Except.ok.inj h
    have hmod : ((naturals.idxOf (pitch % 12) : Nat) + pitch / 12 * 7) % 7
        = ((naturals.idxOf (pitch % 12) : Nat) : Int) := by omega
    have hdiv : ((naturals.idxOf (pitch % 12) : Nat) + pitch / 12 * 7) / 7 = pitch / 12 := by omega
    rw [ofDegree, hmod, hdiv, Int.toNat_natCast, hplace]
    omega

/-- **A pitch has a degree exactly when it is the natural of that degree.** -/
theorem degree_eq_ok_iff {pitch n : Int} : degree pitch = .ok n ↔ pitch = ofDegree n :=
  ⟨fun h => (ofDegree_of_degree h).symm, fun h => h ▸ degree_ofDegree n⟩

/-- Every pitch is a natural or an accidental, and none is both. -/
theorem isAccidental_eq_not_isNatural (pitch : Int) : isAccidental pitch = !isNatural pitch := by
  have h : ∀ place ∈ (List.range 12).map Int.ofNat,
      accidentals.elem place = !naturals.elem place := by decide
  exact h _ (mod_mem_range pitch)

theorem isNatural_iff {pitch : Int} : isNatural pitch = true ↔ ∃ n, ofDegree n = pitch := by
  constructor
  · intro h
    exact ⟨_, ofDegree_of_degree (if_pos h)⟩
  · rintro ⟨n, rfl⟩
    refine Decidable.byContradiction fun hnot => ?_
    have hdegree := degree_ofDegree n
    rw [degree, if_neg hnot] at hdegree
    cases hdegree

/-- A pitch has no degree exactly when it is an accidental, and then it is named. -/
theorem degree_eq_error_iff {pitch : Int} {e : SheetError} :
    degree pitch = .error e ↔ isAccidental pitch = true ∧ e = .notNatural pitch := by
  rw [isAccidental_eq_not_isNatural, degree]
  cases isNatural pitch with
  | true => simp
  | false => simp [eq_comm]

end SongSheet.Pitch
