import SongSheet.Proofs.LetterSheet.Refusal
import SongSheet.Proofs.Score

/-!
# What a letter sheet is read as

The other modules on letter sheets start from a score. Here nothing is known of the text but that it
was accepted. Its marks come from the key lines, its chords from the marks and its beats from the
chords, and each step is followed back once: **a beat that is read is a rest or a chord, it takes a
whole number of units, and its tones are those of keys on the lines** (`mem_beats`,
`mem_of_mem_gather`, `exists_natural_of_marks`).
-/

set_option autoImplicit false

namespace SongSheet.LetterSheet

/-! ## 1. From the key lines to the marks -/

theorem lt_of_row? {c : CodePoint} {row : Nat} (h : row? c = some row) : row < 3 := by
  rw [row?] at h
  split at h
  case isTrue hbetween =>
    have hlow : 'A'.toNat = 65 := rfl
    have hhigh : 'C'.toNat = 67 := rfl
    simp only [CodePoint.between, Bool.and_eq_true, decide_eq_true_eq] at hbetween
    cases h
    omega
  case isFalse => cases h

theorem lt_of_column? {c : CodePoint} {column : Nat} (h : column? c = some column) :
    column < columns := by
  rw [column?] at h
  split at h
  case isTrue hbetween =>
    have hlow : '1'.toNat = 49 := rfl
    have hhigh : '5'.toNat = 53 := rfl
    simp only [CodePoint.between, Bool.and_eq_true, decide_eq_true_eq] at hbetween
    cases h
    rw [columns]
    omega
  case isFalse => cases h

/-- There are fifteen keys, three rows of five. -/
theorem exists_natural_of_marks {t : Text} {ms : List Mark} (h : marks t = .ok ms) {tone : Int}
    (htone : .key tone ∈ ms) : ∃ n : Nat, n < 15 ∧ tone = Pitch.ofDegree n := by
  -- Along the reader: the one case that makes a key has just seen its row and its column.
  fun_induction marks t generalizing ms with
  | case1 =>
    cases h
    cases htone
  | case2 t ih =>
    obtain ⟨ms, hms, rfl⟩ := map_eq_ok h
    rcases List.mem_cons.mp htone with heq | htone
    · cases heq
    · exact ih hms htone
  | case3 c t hdot hrow hblank ih =>
    obtain ⟨ms, hms, rfl⟩ := map_eq_ok h
    rcases List.mem_cons.mp htone with heq | htone
    · cases heq
    · exact ih hms htone
  | case4 | case5 | case6 => cases h
  | case7 c hdot row hrow d u column hcolumn ih =>
    obtain ⟨ms, hms, rfl⟩ := map_eq_ok h
    rcases List.mem_cons.mp htone with heq | htone
    · cases heq
      refine ⟨row * columns + column, ?_, rfl⟩
      have hrowLt := lt_of_row? hrow
      have hcolumnLt := lt_of_column? hcolumn
      rw [columns] at hcolumnLt ⊢
      omega
    · exact ih hms htone

/-! ## 2. From the marks to the chords -/

/-- A chord has no tone but those of the keys it is gathered from. -/
theorem mem_of_mem_gather {ms : List Mark} {c : Chord} (hc : c ∈ (gather ms).chords) {tone : Int}
    (htone : tone ∈ c.tones) : .key tone ∈ ms := by
  induction ms generalizing c with
  | nil => cases hc
  | cons m ms ih =>
    cases m with
    | dot => exact List.mem_cons_of_mem _ (ih hc htone)
    | blank => exact List.mem_cons_of_mem _ (ih hc htone)
    | key pitch =>
      rw [gather] at hc
      -- A key joins the chord it stands in front of, or it is a chord of its own.
      split at hc
      case h_1 chord chords _ hchords =>
        have hmem : ∀ d ∈ chord :: chords, d ∈ (gather ms).chords := fun d hd => hchords ▸ hd
        rcases List.mem_cons.mp hc with rfl | hc
        · rcases List.mem_cons.mp htone with rfl | htone
          · exact List.mem_cons_self
          · exact List.mem_cons_of_mem _ (ih (hmem chord List.mem_cons_self) htone)
        · exact List.mem_cons_of_mem _ (ih (hmem c (List.mem_cons_of_mem _ hc)) htone)
      case h_2 =>
        rcases List.mem_cons.mp hc with rfl | hc
        · rw [List.mem_singleton.mp htone]
          exact List.mem_cons_self
        · exact List.mem_cons_of_mem _ (ih hc htone)

/-! ## 3. From the chords to the beats -/

theorem mem_chordBeats {chords : List Chord} {b : Beat} (hb : b ∈ chordBeats chords) :
    ∃ c ∈ chords, ∃ dots : Nat, b = c.toBeat dots := by
  fun_induction chordBeats chords with
  | case1 => cases hb
  | case2 c => exact ⟨c, List.mem_cons_self, _, List.mem_singleton.mp hb⟩
  | case3 c rest hrest ih =>
    rcases List.mem_cons.mp hb with rfl | hb
    · exact ⟨c, List.mem_cons_self, c.dots, rfl⟩
    · obtain ⟨d, hd, dots, hbeat⟩ := ih hb
      exact ⟨d, List.mem_cons_of_mem _ hd, dots, hbeat⟩

/-- **A beat that is read is the rest in front or one of the chords.** -/
theorem mem_beats {g : Gathered} {b : Beat} (hb : b ∈ beats g) :
    (0 < g.lead ∧ b = { rate := .ofInt g.lead, tones := [] })
      ∨ ∃ c ∈ g.chords, ∃ dots : Nat, b = c.toBeat dots := by
  rw [beats] at hb
  split at hb
  case h_1 => cases hb
  case h_2 =>
    split at hb
    case isTrue => exact .inr (mem_chordBeats hb)
    case isFalse hlead =>
      rcases List.mem_cons.mp hb with rfl | hb
      · exact .inl ⟨Nat.pos_of_ne_zero hlead, rfl⟩
      · exact .inr (mem_chordBeats hb)

/-! ## 4. The score -/

/-- What an accepted text went through: a level and a tempo in its header, and marks on its key
lines, which are the beats. -/
theorem exists_gather_of_read {fileName : Option Text} {t : Text} {score : Score}
    (h : read fileName t = .ok score) :
    (0 ≤ score.keyNote ∧ score.keyNote ≤ 11) ∧ 0 < score.bpm
      ∧ ∃ keyLines ms, marks keyLines = .ok ms ∧ score.beats = beats (gather ms) := by
  obtain ⟨⟨header, keyLines⟩, -, h⟩ := bind_eq_ok h
  obtain ⟨announced, hheader, h⟩ := bind_eq_ok h
  obtain ⟨bs, hkeys, h⟩ := bind_eq_ok h
  obtain ⟨level, hlevel, hheader⟩ := bind_eq_ok hheader
  obtain ⟨bpm, hbpm, hheader⟩ := bind_eq_ok hheader
  cases hheader
  cases h
  refine ⟨Score.range_of_checkPitchLevel hlevel, Score.pos_of_checkBpm hbpm, ?_⟩
  rw [readKeys] at hkeys
  split at hkeys
  case h_1 ms hms => exact ⟨keyLines, ms, hms, (Except.ok.inj hkeys).symm⟩
  case h_2 => cases hkeys

end SongSheet.LetterSheet
