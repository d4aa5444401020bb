import Mathlib
import SongSheet.KeyLayout
import SongSheet.Proofs.Pitch

/-!
# The order of keys

Keys are counted by semitones or by naturals, and in either case a later key sounds higher
(`strictMono_keyPitch`): counting by naturals goes up with the number, as **the integers number the
naturals in their order** (`naturals_numbered`). So a pitch has at most one key.
-/

set_option autoImplicit false

namespace SongSheet

/-- **The naturals stand in the order of their numbers**, across the octaves as within one. -/
theorem Pitch.strictMono_ofDegree : StrictMono ofDegree := by
  intro m n hlt
  have hplaces : ∀ j < 7, ∀ i < j, naturals.getD i 0 < naturals.getD j 0 := by decide
  have hplace := hplaces (n % 7).toNat (by omega) (m % 7).toNat
  obtain ⟨hmodm, hdivm⟩ := ofDegree_mod_div m
  obtain ⟨hmodn, hdivn⟩ := ofDegree_mod_div n
  -- Within an octave the places decide; a later octave starts above all of an earlier one.
  rcases (show m / 7 < n / 7 ∨ m / 7 = n / 7 by omega) with hoctave | hoctave
  · omega
  · have hnext := hplace (by omega)
    omega

namespace KeyLayout

/-- A key further on sounds higher. -/
theorem strictMono_keyPitch (l : KeyLayout) : StrictMono l.keyPitch := by
  intro index later hlt
  have hnote : index + l.keyOffset < later + l.keyOffset := by omega
  rw [keyPitch, keyPitch]
  split
  case isTrue => exact hnote
  case isFalse => exact Pitch.strictMono_ofDegree hnote

/-- A key sounds a pitch, and no other key of the layout does. -/
def IsOnlyKeyOf (l : KeyLayout) (pitch : Int) (key : Nat) : Prop :=
  key < l.keyCount ∧ ∀ other < l.keyCount, l.keyPitch (other : Nat) = pitch ↔ other = key

theorem isOnlyKeyOf_iff {l : KeyLayout} {pitch : Int} {key : Nat} :
    l.IsOnlyKeyOf pitch key ↔ key < l.keyCount ∧ l.keyPitch (key : Nat) = pitch := by
  constructor
  · rintro ⟨hlt, honly⟩
    exact ⟨hlt, (honly key hlt).mpr rfl⟩
  · rintro ⟨hlt, rfl⟩
    refine ⟨hlt, fun other _ => ?_⟩
    rw [l.strictMono_keyPitch.injective.eq_iff, Int.natCast_inj]

end KeyLayout

/-- **The integers number the naturals in their order.** The naturals are the pitches of the
integers and all pitches but the accidentals; a pitch and the number of it go back and forth, an
accidental is refused. Hence the keys of every layout stand in the order of their pitches. -/
theorem Pitch.naturals_numbered :
    StrictMono ofDegree
      ∧ Set.range ofDegree = {pitch | isNatural pitch = true}
      ∧ (∀ pitch, Xor (isNatural pitch = true) (isAccidental pitch = true))
      ∧ (∀ pitch e, degree pitch = .error e ↔ isAccidental pitch = true ∧ e = .notNatural pitch)
      ∧ (∀ pitch, (SheetError.notNatural pitch).kind = .outOfRange)
      ∧ (∀ pitch n, degree pitch = .ok n ↔ ofDegree n = pitch)
      ∧ ∀ l : KeyLayout, StrictMono l.keyPitch := by
  refine ⟨strictMono_ofDegree, ?_, ?_, ?_, fun _ => rfl, ?_, KeyLayout.strictMono_keyPitch⟩
  · ext pitch
    exact isNatural_iff.symm
  · intro pitch
    rw [isAccidental_eq_not_isNatural]
    cases isNatural pitch with
    | true => exact .inl ⟨rfl, Bool.false_ne_true⟩
    | false => exact .inr ⟨rfl, Bool.false_ne_true⟩
  · exact fun pitch e => degree_eq_error_iff
  · exact fun pitch n => degree_eq_ok_iff.trans eq_comm

end SongSheet
