import SongSheet.Proofs.Transposition
import SongSheet.Proofs.Traversal

/-!
# Placement — the strokes of a score

A transposition fits every tone at once, so the walk along the beats that follows it cannot fail:
**with a tempo and a transposition a score has its strokes** (`place_eq_ok`), one to a beat, whose
keys sound the shifted pitches of the beat tone by tone (`IsStrokeOf`). There is no other way to be
placed (`strokes_of_place`).
-/

set_option autoImplicit false

namespace SongSheet.Placement

/-- The stroke of a beat under a shift: for every tone the key of its pitch, and the time that the
beat takes. -/
structure IsStrokeOf (score : Score) (layout : KeyLayout) (shift : Int) (b : Beat) (s : Stroke) :
    Prop where
  delay : s.delay = Placement.delay score.bpm b.rate
  keys : List.Forall₂ (fun tone key => key < layout.keyCount
    ∧ layout.keyPitch (key : Nat) = tone + score.keyNote + shift) b.tones s.keys

variable {score : Score} {layout : KeyLayout} {shift : Int} {b : Beat}

/-- The keys of a stroke sound the tones of its beat, in the same order. -/
theorem IsStrokeOf.map_keys {s : Stroke} (h : IsStrokeOf score layout shift b s) :
    s.keys.map (fun key : Nat => layout.keyPitch key)
      = b.tones.map (· + score.keyNote + shift) := by
  have heq : List.Forall₂ (· = ·) (b.tones.map (· + score.keyNote + shift))
      (s.keys.map fun key : Nat => layout.keyPitch key) := by
    rw [List.forall₂_map_left_iff, List.forall₂_map_right_iff]
    exact h.keys.imp fun tone key hkey => hkey.2.symm
  rw [List.forall₂_eq_eq_eq] at heq
  exact heq.symm

theorem IsStrokeOf.key_lt {s : Stroke} (h : IsStrokeOf score layout shift b s) :
    ∀ key ∈ s.keys, key < layout.keyCount := by
  intro key hkey
  obtain ⟨tone, -, hlt, -⟩ := exists_related_of_mem h.keys hkey
  exact hlt

/-- The key that sounds a pitch. -/
def keyOf (layout : KeyLayout) (pitch : Int) : Except SheetError Nat :=
  match layout.pitches.idxOf? pitch with
  | some key => .ok key
  | none => .error .missingKey

theorem stroke_eq (layout : KeyLayout) (score : Score) (shift : Int) (b : Beat) :
    stroke layout.pitches score shift b
      = (b.tones.mapM fun tone => keyOf layout (tone + score.keyNote + shift)).map fun keys =>
        ⟨keys, delay score.bpm b.rate⟩ := by
  show (do
    let keys ← b.tones.mapM fun tone => keyOf layout (tone + score.keyNote + shift)
    return ⟨keys, delay score.bpm b.rate⟩ : Except SheetError Stroke) = _
  cases b.tones.mapM fun tone => keyOf layout (tone + score.keyNote + shift) <;> rfl

theorem keyPitch_of_keyOf {pitch : Int} {key : Nat} (h : keyOf layout pitch = .ok key) :
    key < layout.keyCount ∧ layout.keyPitch (key : Nat) = pitch := by
  cases hidx : layout.pitches.idxOf? pitch with
  | none =>
    rw [keyOf, hidx] at h
    cases h
  | some key' =>
    rw [keyOf, hidx] at h
    obtain rfl := Except.ok.inj h
    obtain ⟨hlt, hget, -⟩ := List.idxOf?_eq_some_iff.mp hidx
    have hkey : key' < layout.keyCount := by simpa [KeyLayout.pitches] using hlt
    refine ⟨hkey, ?_⟩
    simpa [KeyLayout.pitches] using hget

theorem exists_keyOf {pitch : Int}
    (h : ∃ key < layout.keyCount, layout.keyPitch (key : Nat) = pitch) :
    ∃ key, keyOf layout pitch = .ok key := by
  have hmem : pitch ∈ layout.pitches := KeyLayout.mem_pitches.mpr h
  obtain ⟨key, hkey⟩ := Option.isSome_iff_exists.mp (List.isSome_idxOf?.mpr hmem)
  exact ⟨key, by rw [keyOf, hkey]⟩

/-- What is found for a beat is its stroke. -/
theorem isStrokeOf_of_stroke {s : Stroke} (h : stroke layout.pitches score shift b = .ok s) :
    IsStrokeOf score layout shift b s := by
  rw [stroke_eq] at h
  obtain ⟨keys, hkeys, rfl⟩ := map_eq_ok h
  exact ⟨rfl, (mapM_eq_ok_iff.mp hkeys).imp fun _ _ => keyPitch_of_keyOf⟩

/-- A beat whose pitches all have keys has a stroke. -/
theorem exists_stroke (h : ∀ tone ∈ b.tones,
    ∃ key < layout.keyCount, layout.keyPitch (key : Nat) = tone + score.keyNote + shift) :
    ∃ s, stroke layout.pitches score shift b = .ok s := by
  obtain ⟨keys, hkeys⟩ := exists_mapM_iff.mpr fun tone htone => exists_keyOf (h tone htone)
  refine ⟨⟨keys, delay score.bpm b.rate⟩, ?_⟩
  rw [stroke_eq, hkeys]
  rfl

/-- **A score with a tempo and a transposition is placed**, beat by beat. -/
theorem place_eq_ok (hbpm : 0 < score.bpm) (h : transposition score layout = .ok shift) :
    ∃ strokes, place score layout = .ok ⟨shift, strokes⟩
      ∧ List.Forall₂ (IsStrokeOf score layout shift) score.beats strokes := by
  have hfits := fits_of_transposition h
  obtain ⟨strokes, hstrokes⟩ := exists_mapM_iff.mpr fun b hb => exists_stroke (hfits b hb)
  refine ⟨strokes, ?_, (mapM_eq_ok_iff.mp hstrokes).imp fun b s hs => isStrokeOf_of_stroke hs⟩
  rw [place, if_neg hbpm.not_ge, h, ok_bind, hstrokes]
  rfl

theorem bpm_pos_of_place {placement : Placement} (h : place score layout = .ok placement) :
    0 < score.bpm := by
  by_contra hnot
  rw [place, if_pos (Int.not_lt.mp hnot)] at h
  cases h

/-- What is placed follows a transposition, beat by beat. -/
theorem strokes_of_place {placement : Placement} (h : place score layout = .ok placement) :
    transposition score layout = .ok placement.shift
      ∧ List.Forall₂ (IsStrokeOf score layout placement.shift) score.beats placement.strokes := by
  rw [place, if_neg (bpm_pos_of_place h).not_ge] at h
  obtain ⟨shift, hshift, h⟩ := bind_eq_ok h
  obtain ⟨strokes, hstrokes, h⟩ := bind_eq_ok h
  cases h
  exact ⟨hshift, (mapM_eq_ok_iff.mp hstrokes).imp fun b s hs => isStrokeOf_of_stroke hs⟩

end SongSheet.Placement
