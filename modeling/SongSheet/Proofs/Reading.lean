import SongSheet.Proofs.CipherSheet.Acceptance
import SongSheet.Proofs.Conversion
import SongSheet.Proofs.Timeline.Retiming

/-!
# What every reader makes

Four readers build rates in four ways: out of gaps between presses, out of dots, by multiplying and
dividing, and out of the shortest beat. Whatever comes after a reader relies on what they have in
common, and nothing checks it again: **a score that was read has a tempo, every beat of it lasts,
and its key note is one that the format can spell** (`runs_of_reader`).
-/

set_option autoImplicit false

namespace SongSheet

/-- A score with a tempo, in which every beat lasts and no denominator is negative. -/
structure Score.Runs (score : Score) : Prop where
  bpm : 0 < score.bpm
  rates : ∀ b ∈ score.beats, 0 < b.rate.num ∧ 0 < b.rate.den

/-! ## 1. Cipher sheets -/

namespace CipherSheet

/-- A step multiplies a field by a count, which is not zero. -/
theorem pos_of_stepRate {rate rate' : Rate} {step : Counted} (h : stepRate rate step = .ok rate')
    (hpos : 0 < rate.num ∧ 0 < rate.den) : 0 < rate'.num ∧ 0 < rate'.den := by
  obtain ⟨hnum, hden⟩ := hpos
  rw [stepRate] at h
  split at h
  case isTrue => cases h
  case isFalse hcount =>
    have hcount : (0 : Int) < Text.readNat step.digits :=
      Int.natCast_pos.mpr (Nat.pos_of_ne_zero hcount)
    split at h
    case isTrue =>
      rw [Rate.withDen, Rate.make] at h
      split at h
      case isTrue => cases h
      case isFalse =>
        cases h
        exact ⟨hnum, Int.mul_pos hden hcount⟩
    case isFalse =>
      cases h
      exact ⟨Int.mul_pos hnum hcount, hden⟩

theorem pos_of_foldlM_stepRate {steps : List Counted} {rate rate' : Rate}
    (h : steps.foldlM stepRate rate = .ok rate') (hpos : 0 < rate.num ∧ 0 < rate.den) :
    0 < rate'.num ∧ 0 < rate'.den := by
  induction steps generalizing rate with
  | nil =>
    cases h
    exact hpos
  | cons step steps ih =>
    rw [List.foldlM_cons] at h
    obtain ⟨next, hnext, h⟩ := bind_eq_ok h
    exact ih h (pos_of_stepRate hnext hpos)

theorem pos_of_toBeats {m : Music} {bs : List Beat} (h : m.toBeats = .ok bs) :
    ∀ b ∈ bs, 0 < b.rate.num ∧ 0 < b.rate.den := by
  intro b hb
  obtain ⟨c, -, hc⟩ := exists_related_of_mem (mapM_eq_ok_iff.mp h) hb
  obtain ⟨rate, hrate, hc⟩ := bind_eq_ok hc
  obtain ⟨tones, -, hc⟩ := bind_eq_ok hc
  cases hc
  exact pos_of_foldlM_stepRate hrate ⟨Int.one_pos, Int.one_pos⟩

/-- A letter is a natural of the first octave, and an accidental takes it no further than one to
either side. -/
theorem Music.keyNote_of_letter {m : Music} (h : m.letter.between 'A' 'G' = true) :
    -1 ≤ m.keyNote ∧ m.keyNote ≤ 12 := by
  have hletters : ∀ i ≤ 6, ∀ hi : 65 + i < 0x110000,
      0 ≤ Pitch.ofDegree (letters.idxOf ⟨65 + i, hi⟩ : Nat)
        ∧ Pitch.ofDegree (letters.idxOf ⟨65 + i, hi⟩ : Nat) ≤ 11 := by
    decide
  obtain ⟨⟨n, hn⟩, accidental, bpm, cs⟩ := m
  rw [CodePoint.between, Bool.and_eq_true, decide_eq_true_iff, decide_eq_true_iff] at h
  obtain ⟨hlow, hhigh⟩ : 65 ≤ n ∧ n ≤ 71 := h
  obtain ⟨i, rfl⟩ := Nat.exists_eq_add_of_le hlow
  obtain ⟨hpitchLow, hpitchHigh⟩ := hletters i (by omega) hn
  simp only [Music.keyNote]
  split_ifs <;> omega

theorem runs_of_read {fileName : Option Text} {t : Text} {score : Score}
    (h : read fileName t = .ok score) :
    score.Runs ∧ -1 ≤ score.keyNote ∧ score.keyNote ≤ 12 := by
  rw [read] at h
  split at h
  case h_1 => cases h
  case h_2 m hm =>
    obtain ⟨bpm, hbpm, h⟩ := bind_eq_ok h
    obtain ⟨bs, hbeats, h⟩ := bind_eq_ok h
    cases h
    exact ⟨⟨Score.pos_of_checkBpm hbpm, pos_of_toBeats hbeats⟩,
      Music.keyNote_of_letter (Music.wellFormed_of_ofText? hm).letter⟩

end CipherSheet

/-! ## 2. The other formats -/

theorem EventSheet.runs_of_read {t : Text} {score : Score} (h : read t = .ok score) :
    score.Runs ∧ 0 ≤ score.keyNote ∧ score.keyNote ≤ 11 := by
  obtain ⟨chords, hread⟩ := exists_chords_of_read h
  refine ⟨⟨hread.bpm, fun b hb => ?_⟩, hread.level⟩
  rw [hread.beats] at hb
  obtain ⟨hnum, hden, -⟩ := mem_heard hread.bpm hread.areRead.increasing b hb
  exact ⟨hnum, hden⟩

theorem LetterSheet.runs_of_read {fileName : Option Text} {t : Text} {score : Score}
    (h : read fileName t = .ok score) :
    score.Runs ∧ 0 ≤ score.keyNote ∧ score.keyNote ≤ 11 := by
  obtain ⟨hlevel, hbpm, keyLines, ms, -, hbeats⟩ := exists_gather_of_read h
  refine ⟨⟨hbpm, fun b hb => ?_⟩, hlevel⟩
  rw [hbeats] at hb
  obtain ⟨hlead, rfl⟩ | ⟨c, -, dots, rfl⟩ := mem_beats hb
  · exact ⟨Int.natCast_pos.mpr hlead, Int.one_pos⟩
  · have hunits : (0 : Int) < 1 + dots := by omega
    exact ⟨hunits, Int.one_pos⟩

theorem Timeline.version_of_read {name content : Text} {version : Int} {score : Score}
    (h : read name content version = .ok score) : version = Timeline.version := by
  rw [read] at h
  split at h
  case isTrue => cases h
  case isFalse hversion => exact not_not.mp hversion

/-- What a script plays is a timeline. -/
theorem Script.exists_timeline_of_read {t : Text} {score : Score} (h : read t = .ok score) :
    ∃ name content, Timeline.read name content Timeline.version = .ok score := by
  obtain ⟨calls, -, h⟩ := bind_eq_ok h
  split at h
  case h_1 => cases h
  case h_2 arguments _ =>
    split at h
    case h_2 => cases h
    case h_1 score' hscore =>
      cases h
      -- Of all literals only two texts and the version make a timeline.
      rw [ofArguments.eq_def] at hscore
      split at hscore
      case h_1 name content version _ =>
        have hversion : version = Timeline.version := Timeline.version_of_read hscore
        rw [hversion] at hscore
        exact ⟨name, content, hscore⟩
      case h_2 => cases hscore
      case h_3 => cases hscore

theorem Script.runs_of_read {t : Text} {score : Score} (h : read t = .ok score) :
    score.Runs ∧ score.keyNote = 0 := by
  obtain ⟨name, content, hread⟩ := exists_timeline_of_read h
  obtain ⟨hbpm, hrates⟩ := Timeline.rates_of_read hread
  obtain ⟨_, _, _, _, _, -, -, -, -, -, -, hmade⟩ := Timeline.exists_moments_of_read hread
  refine ⟨⟨hbpm, fun b hb => ?_⟩, ?_⟩
  · obtain ⟨hnum, hden, -⟩ := hrates b hb
    exact ⟨hnum, hden⟩
  · rw [hmade]
    rfl

/-! ## 3. All formats -/

/-- The lowest and the highest key note that a format can spell. -/
def Format.keyNotes : Format → Int × Int
  | eventSheet => (0, 11)
  | letterSheet => (0, 11)
  | cipherSheet => (-1, 12)
  | script => (0, 0)

/-- **What was read has a tempo, its beats last, and its key note is one of the format's.** -/
theorem Format.runs_of_reader {f : Format} {fileName : Option Text} {t : Text} {score : Score}
    (h : f.reader fileName t = .ok score) :
    score.Runs ∧ f.keyNotes.1 ≤ score.keyNote ∧ score.keyNote ≤ f.keyNotes.2 := by
  cases f with
  | eventSheet => exact EventSheet.runs_of_read (ok_of_mapError h)
  | letterSheet => exact LetterSheet.runs_of_read (ok_of_mapError h)
  | cipherSheet => exact CipherSheet.runs_of_read (ok_of_mapError h)
  | script =>
    obtain ⟨hruns, hkey⟩ := Script.runs_of_read h
    exact ⟨hruns, hkey.ge, hkey.le⟩

/-- A key below the octave, and rates of two steps. -/
theorem Format.runs_of_reader_sample :
    let score : Score := {
      name := .string "flat"
      keyNote := -1
      bpm := 60
      beats := [⟨⟨3, 2, by decide⟩, [0]⟩, ⟨⟨1, 4, by decide⟩, []⟩] }
    (cipherSheet.reader (some "flat.yp.txt") "[1=Cb, 4/4, 60] 1*3/2, 0/2/2" = .ok score)
      ∧ score.Runs ∧ -1 ≤ score.keyNote ∧ score.keyNote ≤ 12 := by
  intro score
  have hread : cipherSheet.reader (some "flat.yp.txt") "[1=Cb, 4/4, 60] 1*3/2, 0/2/2"
      = .ok score := by
    decide +kernel
  exact ⟨hread, runs_of_reader hread⟩

end SongSheet
