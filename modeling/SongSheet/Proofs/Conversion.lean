import SongSheet.Proofs.EventSheet.Rewriting
import SongSheet.Proofs.Format
import SongSheet.Proofs.LetterSheet.Beats
import SongSheet.Proofs.LetterSheet.RoundTrip

/-!
# Sheets for fifteen keys in every format

Event sheets and letter sheets are for one instrument, the fifteen naturals from the tonic up. A
level of up to eleven semitones moves their pitches off its keys, and the player's script has other
keys altogether. Still, **what was read of such a sheet can be written in every format**
(`exists_written`): a transposition can always take the level back and go on by whole octaves
(`fits_of_naturals`), and no writer looks at more than a tempo, positive denominators and the tones.
-/

set_option autoImplicit false

namespace SongSheet

/-! ## 1. Scores for fifteen keys -/

/-- A score for the fifteen naturals from the tonic up. -/
structure Score.ForFifteenKeys (score : Score) : Prop where
  bpm : 0 < score.bpm
  den : ∀ b ∈ score.beats, 0 < b.rate.den
  naturals : ∀ b ∈ score.beats, ∀ tone ∈ b.tones, ∃ n : Nat, n < 15 ∧ tone = Pitch.ofDegree n

theorem EventSheet.forFifteenKeys_of_read {t : Text} {score : Score} (h : read t = .ok score) :
    score.ForFifteenKeys := by
  obtain ⟨chords, hread⟩ := exists_chords_of_read h
  have hheard := mem_heard hread.bpm hread.areRead.increasing
  rw [← hread.beats] at hheard
  refine ⟨hread.bpm, fun b hb => (hheard b hb).2.1, ?_⟩
  intro b hb tone htone
  obtain ⟨-, -, hrest | ⟨c, hc, htones⟩⟩ := hheard b hb
  · rw [hrest] at htone
    cases htone
  · rw [htones] at htone
    obtain ⟨key, hkey, hpitch⟩ := hread.areRead.onKeys c hc tone htone
    exact ⟨key, hkey, hpitch.symm.trans (keyPitch_layout key)⟩

theorem LetterSheet.forFifteenKeys_of_read {fileName : Option Text} {t : Text} {score : Score}
    (h : read fileName t = .ok score) : score.ForFifteenKeys := by
  obtain ⟨-, hbpm, keyLines, ms, hms, hbeats⟩ := exists_gather_of_read h
  refine ⟨hbpm, ?_, ?_⟩
  · intro b hb
    rw [hbeats] at hb
    obtain ⟨-, rfl⟩ | ⟨c, -, dots, rfl⟩ := mem_beats hb
    · exact Int.one_pos
    · exact Int.one_pos
  · intro b hb tone htone
    rw [hbeats] at hb
    obtain ⟨-, rfl⟩ | ⟨c, hc, dots, rfl⟩ := mem_beats hb
    · cases htone
    · exact exists_natural_of_marks hms (mem_of_mem_gather hc (List.mem_eraseDups.mp htone))

/-! ## 2. Such scores are written -/

variable {score : Score}

/-- **A layout of naturals from some tonic up takes every score for fifteen keys**, if it has so
many. -/
theorem Placement.fits_of_naturals {layout : KeyLayout} {octaves : Int}
    (htonic : layout.keyOffset = 7 * octaves) (hnaturals : layout.semitone = false)
    (hcount : 15 ≤ layout.keyCount) (h : score.ForFifteenKeys) :
    Fits score layout (12 * octaves - score.keyNote) := by
  intro b hb tone htone
  obtain ⟨n, hn, rfl⟩ := h.naturals b hb tone htone
  have hpitch : layout.keyPitch (n : Nat) = Pitch.ofDegree n + 12 * octaves := by
    rw [KeyLayout.keyPitch, htonic, hnaturals]
    exact Pitch.ofDegree_add_octaves n octaves
  refine ⟨n, by omega, ?_⟩
  rw [hpitch]
  omega

theorem Placement.exists_place {layout : KeyLayout} {octaves : Int}
    (htonic : layout.keyOffset = 7 * octaves) (hnaturals : layout.semitone = false)
    (hcount : 15 ≤ layout.keyCount) (h : score.ForFifteenKeys) :
    ∃ placement, place score layout = .ok placement := by
  have hfits := fits_of_naturals htonic hnaturals hcount h
  obtain ⟨shift, hshift⟩ := exists_transposition (by omega) hfits
  obtain ⟨strokes, hplace, -⟩ := place_eq_ok h.bpm hshift
  exact ⟨⟨shift, strokes⟩, hplace⟩

/-- Whether a letter sheet is written does not depend on what its header says. -/
theorem LetterSheet.exists_write_congr {score' : Score} (h : score.beats = score'.beats) :
    (∃ t, write score = .ok t) ↔ ∃ t, write score' = .ok t := by
  simp only [write, h]
  cases score'.beats.mapM (beatWords (unitsPerBeat score'.beats)) with
  | error e =>
    constructor
    · rintro ⟨t, ⟨⟩⟩
    · rintro ⟨t, ⟨⟩⟩
  | ok words => exact ⟨fun _ => ⟨_, rfl⟩, fun _ => ⟨_, rfl⟩⟩

theorem LetterSheet.exists_write_of_forFifteenKeys (h : score.ForFifteenKeys) :
    ∃ t, write score = .ok t := by
  let unsigned : Score := { score with author := .string [], transcriber := .string [] }
  have hkeys : ∀ b ∈ unsigned.beats, b.Lasts → ∀ tone ∈ b.tones, HasKey tone := by
    intro b hb _ tone htone
    obtain ⟨n, hn, rfl⟩ := h.naturals b hb tone htone
    exact ⟨n, Pitch.degree_ofDegree n, by omega, by omega⟩
  have hbpm : 0 < unsigned.bpm := h.bpm
  have hunsigned : ∃ t, write unsigned = .ok t :=
    (exists_write_iff rfl rfl hbpm h.den).mpr hkeys
  have hbeats : score.beats = unsigned.beats := rfl
  exact (exists_write_congr hbeats).mpr hunsigned

/-- **What was read of an event sheet or a letter sheet can be written in every format**, on the
keys that the format has by itself. -/
theorem Format.exists_written {f : Format} (hf : f = .eventSheet ∨ f = .letterSheet)
    {fileName : Option Text} {t : Text} (h : f.reader fileName t = .ok score) (g : Format) :
    ∃ written, g.writer none score = .ok written := by
  have hkeys : score.ForFifteenKeys := by
    rcases hf with rfl | rfl
    · exact EventSheet.forFifteenKeys_of_read (ok_of_mapError h)
    · exact LetterSheet.forFifteenKeys_of_read (ok_of_mapError h)
  cases g with
  | eventSheet =>
    have htonic : EventSheet.layout.keyOffset = 7 * 0 := rfl
    obtain ⟨placement, hplace⟩ := Placement.exists_place htonic rfl (by decide) hkeys
    rw [writer_eventSheet, hplace]
    exact ⟨_, rfl⟩
  | letterSheet =>
    obtain ⟨text, htext⟩ := LetterSheet.exists_write_of_forFifteenKeys hkeys
    rw [writer_letterSheet, htext]
    exact ⟨_, rfl⟩
  | cipherSheet => exact ⟨_, rfl⟩
  | script =>
    have htonic : Timeline.playerLayout.keyOffset = 7 * (-1) := rfl
    obtain ⟨placement, hplace⟩ := Placement.exists_place htonic rfl (by decide) hkeys
    have hlayout : Script.layoutFor none = .ok Timeline.playerLayout := rfl
    rw [writer_script, hlayout, Except.bind, hplace]
    exact ⟨_, rfl⟩

/-- The highest and the lowest key, eleven semitones up. -/
def LetterSheet.levelEleven : Text := "<DontCopyThisLine> 120 11 16 A B\nC5 . A1 "

def LetterSheet.scoreOfLevelEleven : Score where
  name := .string "Unknown"
  author := .string "A"
  transcriber := .string "B"
  keyNote := 11
  bpm := 120
  beats := [{ rate := Rate.ofInt 2, tones := [24] }, { rate := Rate.ofInt 4, tones := [0] }]

theorem LetterSheet.read_levelEleven :
    Format.letterSheet.reader none levelEleven = .ok scoreOfLevelEleven := by
  decide +kernel

theorem Format.exists_written_sample :
    (Format.letterSheet.reader none LetterSheet.levelEleven = .ok LetterSheet.scoreOfLevelEleven)
      ∧ ∀ g : Format, ∃ written, g.writer none LetterSheet.scoreOfLevelEleven = .ok written :=
  ⟨LetterSheet.read_levelEleven, exists_written (.inr rfl) LetterSheet.read_levelEleven⟩

end SongSheet
