import SongSheet.Score

/-!
# Scores and their checks

A reader takes a tempo and a level from wherever the format keeps them, and checks them in the same
way. What the checks let through is all that later proofs ask for: a tempo is positive, a level is a
place in the octave.

Of what was read, `played?` keeps the music and leaves out the metadata.
-/

set_option autoImplicit false

namespace SongSheet.Score

theorem pos_of_checkBpm {value : Json} {bpm : Int} (h : checkBpm value = .ok bpm) : 0 < bpm := by
  rw [checkBpm] at h
  split at h
  case h_1 => cases h
  case h_2 =>
    split at h
    case isTrue => cases h
    case isFalse hrange =>
      cases h
      exact Int.not_le.mp hrange

theorem range_of_checkPitchLevel {value : Json} {level : Int}
    (h : checkPitchLevel value = .ok level) : 0 ≤ level ∧ level ≤ 11 := by
  rw [checkPitchLevel] at h
  split at h
  case h_1 => cases h
  case h_2 =>
    split at h
    case isTrue => cases h
    case isFalse hrange =>
      cases h
      omega

end SongSheet.Score

namespace SongSheet

/-- Scores with the same key, tempo and beats; the metadata may differ. -/
structure Score.SameMusic (score score' : Score) : Prop where
  keyNote : score.keyNote = score'.keyNote
  bpm : score.bpm = score'.bpm
  beats : score.beats = score'.beats

/-- The key, the tempo and the beats that were read, if anything was. -/
def played? {ε : Type} : Except ε Score → Option (Int × Int × List Beat)
  | .ok score => some (score.keyNote, score.bpm, score.beats)
  | .error _ => none

theorem played?_mapError {ε ε' : Type} (wrap : ε → ε') (x : Except ε Score) :
    played? (x.mapError wrap) = played? x := by
  cases x <;> rfl

theorem played?_bind {ε α : Type} (x : Except ε α) {f g : α → Except ε Score}
    (h : ∀ a, played? (f a) = played? (g a)) : played? (x >>= f) = played? (x >>= g) := by
  cases x with
  | error e => rfl
  | ok a => exact h a

/-- Readings that are played alike have the same music, where they have any. -/
theorem Score.sameMusic_of_played? {ε : Type} {x x' : Except ε Score}
    (h : played? x = played? x') {score score' : Score} (hx : x = .ok score)
    (hx' : x' = .ok score') : score.SameMusic score' := by
  rw [hx, hx'] at h
  simp only [played?, Option.some.injEq, Prod.mk.injEq] at h
  exact ⟨h.1, h.2.1, h.2.2⟩

theorem played?_eq_none {ε : Type} {x : Except ε Score} (h : ∃ e, x = .error e) :
    played? x = none := by
  obtain ⟨e, rfl⟩ := h
  rfl

end SongSheet
