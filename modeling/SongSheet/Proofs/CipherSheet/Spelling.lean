import SongSheet.CipherSheet
import SongSheet.Proofs.Arrangement
import SongSheet.Proofs.CipherSheet.Notation
import SongSheet.Proofs.Pitch
import SongSheet.Proofs.Rate

/-!
# What the writer of cipher sheets spells

The writer goes straight to text. Here is the tree behind that text, level by level: the note of a
tone, the chord of a beat, the music of a score. For each there are three facts, and they are all
that the round trip needs of the writer:

* the text the writer gives is the tree's (`noteText_eq`, `beatText_eq`, `bracket_musicOf`);
* the tree is well formed, so the reader finds it again;
* **the tree means what it was made from** (`tone_noteOf`, `toBeat_chordOf`, `keyNote_musicOf`).
-/

set_option autoImplicit false

namespace SongSheet.CipherSheet

/-! ## 1. Notes -/

/-- The mark of an octave: none for the middle one, and a count past its neighbours. -/
def octaveMarks (octave : Int) : List Counted :=
  if octave = 0 then []
  else if octave = 1 then [⟨'+', []⟩]
  else if octave = -1 then [⟨'-', []⟩]
  else if 0 < octave then [⟨'+', Text.ofNat octave.natAbs⟩]
  else [⟨'-', Text.ofNat octave.natAbs⟩]

/-- The mark of an accidental, which is spelled as the natural below. -/
def sharps (tone : Int) : List Counted := if Pitch.isAccidental tone then [⟨'#', []⟩] else []

/-- The note that spells a tone. -/
def noteOf (tone : Int) : Note where
  digit := CodePoint.ofChar (Nat.digitChar (Pitch.naturals.idxOf (naturalBelow tone) + 1))
  modifiers := octaveMarks (tone / 12) ++ sharps tone

/-- At or below every place of the octave there is a natural, a semitone below at most. -/
theorem naturalBelow_mem (tone : Int) : naturalBelow tone ∈ Pitch.naturals := by
  have h : ∀ r ∈ (List.range 12).map Int.ofNat,
      (if Pitch.accidentals.elem r then r - 1 else r) ∈ Pitch.naturals := by decide
  exact h _ (Pitch.mod_mem_range tone)

theorem naturalBelow_add (tone : Int) :
    naturalBelow tone + (if Pitch.isAccidental tone then 1 else 0) = tone % 12 := by
  rw [naturalBelow]
  split <;> omega

theorem degree_lt (tone : Int) : Pitch.naturals.idxOf (naturalBelow tone) < 7 :=
  Pitch.idxOf_lt _ (naturalBelow_mem tone)

theorem digit?_digitChar : ∀ d < 10, (CodePoint.ofChar (Nat.digitChar d)).digit? = some d := by
  decide

theorem digit?_noteOf (tone : Int) :
    (noteOf tone).digit.digit? = some (Pitch.naturals.idxOf (naturalBelow tone) + 1) :=
  digit?_digitChar _ (by have := degree_lt tone; omega)

theorem render_octaveMarks (octave : Int) :
    (octaveMarks octave).flatMap Counted.render = octaveMark octave := by
  rw [octaveMarks, octaveMark]
  split
  · rfl
  split
  · rfl
  split
  · rfl
  split
  case isTrue h =>
    rw [Text.ofInt_of_nonneg h.le]
    simp [Counted.render, Text.ofString]
  case isFalse h0 _ _ h =>
    rw [Text.ofInt, if_pos (by omega)]
    simp [Counted.render]

/-- The text of a tone is that of its note. -/
theorem noteText_eq (tone : Int) : noteText tone = (noteOf tone).render := by
  have hlt := degree_lt tone
  have hdigit : Text.ofNat (Pitch.naturals.idxOf (naturalBelow tone) + 1)
      = [(noteOf tone).digit] := by
    rw [Text.ofNat, Nat.toDigits_of_lt_base (by omega)]
    rfl
  have hsharp : (sharps tone).flatMap Counted.render
      = if Pitch.isAccidental tone then ("#" : Text) else [] := by
    rw [sharps]
    split <;> rfl
  rw [noteText, hdigit, Note.render, ← render_octaveMarks, ← hsharp, noteOf, List.flatMap_append]
  simp

theorem wellFormed_octaveMarks {octave : Int} {m : Counted} (h : m ∈ octaveMarks octave) :
    isModifier m.mark = true ∧ areDigits m.digits = true := by
  rw [octaveMarks] at h
  split at h
  · cases h
  -- Each of the others is one mark, with digits or without.
  all_goals
    repeat' split at h
    all_goals
      rw [List.mem_singleton.mp h]
      exact ⟨rfl, by simp [areDigits, -List.all_eq_true, Text.areDigits_ofNat]⟩

theorem wellFormed_noteOf (tone : Int) : (noteOf tone).WellFormed where
  digit := by
    rw [CodePoint.isDigit, digit?_noteOf]
    rfl
  modifiers := by
    intro m hm
    rcases List.mem_append.mp hm with hm | hm
    · exact wellFormed_octaveMarks hm
    · rw [sharps] at hm
      split at hm
      · rw [List.mem_singleton.mp hm]
        decide
      · cases hm

theorem sum_octaveMarks (octave : Int) :
    ((octaveMarks octave).map modifierShift).sum = octave * 12 := by
  rw [octaveMarks]
  split
  case isTrue h => simp [h]
  split
  case isTrue h =>
    rw [h]
    decide
  split
  case isTrue h =>
    rw [h]
    decide
  have hcount : (if (Text.ofNat octave.natAbs).isEmpty then 1
      else (Text.readNat (Text.ofNat octave.natAbs) : Int)) = octave.natAbs := by
    rw [if_neg (by simp), Text.readNat_ofNat]
  split
  case isTrue h =>
    have hup : modifierShift ⟨'+', Text.ofNat octave.natAbs⟩ = octave.natAbs * 12 :=
      congrArg (· * 12) hcount
    rw [List.map_singleton, List.sum_singleton, hup]
    omega
  case isFalse h =>
    have hdown : modifierShift ⟨'-', Text.ofNat octave.natAbs⟩ = -(octave.natAbs * 12) :=
      congrArg (fun count : Int => -(count * 12)) hcount
    rw [List.map_singleton, List.sum_singleton, hdown]
    omega

/-- **A tone is the tone of the note that spells it**, in any octave. -/
theorem tone_noteOf (tone : Int) : (noteOf tone).tone = .ok (some tone) := by
  have hlt := degree_lt tone
  have hsharp : ((sharps tone).map modifierShift).sum
      = if Pitch.isAccidental tone then 1 else 0 := by
    rw [sharps]
    split <;> decide
  have hnatural := Pitch.ofDegree_idxOf _ (naturalBelow_mem tone)
  have hsum : ((noteOf tone).modifiers.map modifierShift).foldr (· + ·) 0
      = tone / 12 * 12 + if Pitch.isAccidental tone then 1 else 0 := by
    rw [← List.sum_eq_foldr, noteOf, List.map_append, List.sum_append, sum_octaveMarks, hsharp]
  rw [Note.tone, digit?_noteOf]
  dsimp only [Option.getD_some]
  rw [if_neg (by omega), if_neg (by omega), hsum]
  have hbelow := naturalBelow_add tone
  have hdiv := Int.mul_ediv_add_emod tone 12
  have hcast : ((Pitch.naturals.idxOf (naturalBelow tone) + 1 : Nat) : Int) - 1
      = (Pitch.naturals.idxOf (naturalBelow tone) : Nat) := by omega
  rw [hcast, hnatural]
  congr 2
  omega

/-! ## 2. Beats -/

/-- A step of a rate: none for one. -/
def stepOf (mark : CodePoint) (n : Int) : List Counted :=
  if n = 1 then [] else [⟨mark, Text.ofNat n.natAbs⟩]

/-- The note of a rest. -/
def restNote : Note := ⟨'0', []⟩

/-- The chord that spells a beat. -/
def chordOf (b : Beat) : Chord where
  notes := if b.tones.isEmpty then [restNote] else b.tones.map noteOf
  steps := stepOf '*' b.rate.reduce.num ++ stepOf '/' b.rate.reduce.den

theorem render_stepOf {mark : CodePoint} {n : Int} (h : 0 < n) :
    (stepOf mark n).flatMap Counted.render
      = if n = 1 then [] else [mark] ++ Text.ofInt n := by
  rw [stepOf]
  split
  · rfl
  · rw [Text.ofInt_of_nonneg h.le]
    simp [Counted.render]

/-- The text of a beat that takes time is its chord's, with a comma; any other beat has none. -/
theorem beatText_eq {b : Beat} (h : 0 < b.rate.den) :
    beatText b = if 0 < b.rate.num then (chordOf b).render ++ (",": Text) else [] := by
  rw [beatText]
  dsimp only
  split
  case isTrue hnum => rw [if_neg (by rw [← Rate.reduce_num_pos]; omega)]
  case isFalse hnum =>
    have hnum : 0 < b.rate.reduce.num := by omega
    rw [if_pos (Rate.reduce_num_pos.mp hnum), Chord.render, chordOf, List.flatMap_append,
      render_stepOf hnum, render_stepOf (Rate.reduce_den_pos h)]
    have hnotes : Text.join "&"
          ((if b.tones.isEmpty then [restNote] else b.tones.map noteOf).map Note.render)
        = if b.tones.isEmpty then ("0" : Text) else Text.join "&" (b.tones.map noteText) := by
      split
      · rfl
      · rw [List.map_map]
        congr 2
        funext tone
        exact (noteText_eq tone).symm
    rw [hnotes, ← List.append_assoc]
    rfl

theorem isNumeral_ofNat (n : Nat) : isNumeral (Text.ofNat n) = true := by
  simp [isNumeral, areDigits, -List.all_eq_true, Text.areDigits_ofNat]

theorem wellFormed_stepOf {mark : CodePoint} {n : Int} {s : Counted} (hmark : isStep mark = true)
    (hs : s ∈ stepOf mark n) : isStep s.mark = true ∧ isNumeral s.digits = true := by
  rw [stepOf] at hs
  split at hs
  · cases hs
  · rw [List.mem_singleton.mp hs]
    exact ⟨hmark, isNumeral_ofNat _⟩

theorem wellFormed_chordOf (b : Beat) : (chordOf b).WellFormed where
  notes_ne_nil := by
    rw [chordOf]
    cases b.tones <;> simp
  notes := by
    intro n hn
    rw [chordOf] at hn
    dsimp only at hn
    split at hn
    · rw [List.mem_singleton.mp hn]
      exact ⟨by decide, by simp [restNote]⟩
    · obtain ⟨tone, -, rfl⟩ := List.mem_map.mp hn
      exact wellFormed_noteOf tone
  steps := by
    intro s hs
    rcases List.mem_append.mp hs with hs | hs
    · exact wellFormed_stepOf (by decide) hs
    · exact wellFormed_stepOf (by decide) hs

theorem foldlM_stepOf_num {n : Int} (h : 0 < n) (r : Rate) :
    (stepOf '*' n).foldlM stepRate r = .ok (r.withNum (r.num * n)) := by
  rw [stepOf]
  split
  case isTrue h1 =>
    rw [h1, Int.mul_one]
    rfl
  case isFalse =>
    have hmark : (('*' : CodePoint) = '/') = False := by decide
    have habs : (n.natAbs : Int) = n := Int.natAbs_of_nonneg h.le
    have hne : n.natAbs ≠ 0 := by omega
    rw [List.foldlM_cons]
    simp only [stepRate, Text.readNat_ofNat, hne, if_false, hmark, habs]
    rfl

theorem foldlM_stepOf_den {n : Int} (h : 0 < n) (r : Rate) :
    (stepOf '/' n).foldlM stepRate r
      = .ok ⟨r.num, r.den * n, Int.mul_ne_zero r.den_ne_zero (Int.ne_of_gt h)⟩ := by
  rw [stepOf]
  split
  case isTrue h1 =>
    subst h1
    simp [pure, Except.pure]
  case isFalse =>
    have habs : (n.natAbs : Int) = n := Int.natAbs_of_nonneg h.le
    have hne : n.natAbs ≠ 0 := by omega
    have hden : r.den * n ≠ 0 := Int.mul_ne_zero r.den_ne_zero h.ne'
    rw [List.foldlM_cons]
    simp only [stepRate, Text.readNat_ofNat, hne, if_false, if_true, habs, Rate.withDen, Rate.make,
      hden, dif_neg, not_false_eq_true]
    rfl

/-- The steps of a rate in lowest terms make that rate. -/
theorem foldlM_steps {r : Rate} (hnum : 0 < r.num) (hden : 0 < r.den) :
    (stepOf '*' r.num ++ stepOf '/' r.den).foldlM stepRate (Rate.ofInt 1) = .ok r := by
  rw [List.foldlM_append, foldlM_stepOf_num hnum]
  refine (foldlM_stepOf_den hden _).trans ?_
  simp [Rate.ofInt, Rate.withNum]

/-- **The chord of a beat makes that beat**, its rate in lowest terms. -/
theorem toBeat_chordOf {b : Beat} (hnum : 0 < b.rate.num) (hden : 0 < b.rate.den)
    (hnodup : b.tones.Nodup) :
    (chordOf b).toBeat = .ok { rate := b.rate.reduce, tones := b.tones } := by
  have hsteps : (chordOf b).steps.foldlM stepRate (Rate.ofInt 1) = .ok b.rate.reduce :=
    foldlM_steps (Rate.reduce_num_pos.mpr hnum) (Rate.reduce_den_pos hden)
  have htones : ∃ ts, (chordOf b).notes.mapM Note.tone = .ok ts ∧ ts.filterMap id = b.tones := by
    rw [chordOf]
    dsimp only
    split
    case isTrue hrest =>
      rw [List.isEmpty_iff] at hrest
      rw [hrest]
      exact ⟨[none], rfl, rfl⟩
    case isFalse =>
      refine ⟨b.tones.map some, mapM_map_eq_pure fun tone _ => tone_noteOf tone, ?_⟩
      rw [List.filterMap_map]
      exact List.filterMap_some
  obtain ⟨ts, hts, hfilter⟩ := htones
  rw [Chord.toBeat, hsteps]
  simp only [bind, Except.bind, hts, hfilter, eraseDups_eq_self hnodup]
  rfl

/-! ## 3. Whole sheets -/

/-- The music that spells a score. Beats that take no time have no chord. -/
def musicOf (score : Score) : Music where
  letter := letters.getD (Pitch.naturals.idxOf (naturalBelow score.keyNote)) 'C'
  accidental := if Pitch.isAccidental score.keyNote then some '#' else none
  bpm := Text.ofNat score.bpm.natAbs
  chords := (score.beats.filter (·.Lasts)).map chordOf

theorem body_musicOf {score : Score} (h : ∀ b ∈ score.beats, 0 < b.rate.den) :
    (musicOf score).body = score.beats.flatMap beatText := by
  rw [Music.body, musicOf]
  dsimp only
  generalize score.beats = beats at h
  induction beats with
  | nil => rfl
  | cons b beats ih =>
    have hb := h b (by simp)
    have ih := ih fun b' hb' => h b' (by simp [hb'])
    rw [List.flatMap_cons, beatText_eq hb, ← ih, List.filter_cons]
    by_cases hlasts : b.Lasts
    · rw [if_pos (decide_eq_true hlasts), if_pos ((Beat.lasts_iff hb).mp hlasts), List.map_cons,
        List.flatMap_cons]
    · rw [if_neg (by simpa using hlasts),
        if_neg (fun hnum => hlasts ((Beat.lasts_iff hb).mpr hnum)), List.nil_append]

theorem bracket_musicOf {score : Score} (h : 0 < score.bpm) :
    (musicOf score).bracket = bracketText score := by
  have hkey : (musicOf score).letter :: (musicOf score).accidental.toList
      = keyText score.keyNote := by
    rw [keyText, musicOf]
    dsimp only
    split <;> rfl
  have htempo : (musicOf score).bpm = Text.ofInt score.bpm := by
    rw [Text.ofInt_of_nonneg h.le]
    rfl
  rw [Music.bracket, hkey, htempo, bracketText]

/-- What the key of a score looks like, in every place of the octave. -/
theorem key_musicOf (keyNote : Int) :
    (letters.getD (Pitch.naturals.idxOf (naturalBelow keyNote)) 'C').between 'A' 'G' = true
      ∧ Pitch.ofDegree (letters.idxOf
          (letters.getD (Pitch.naturals.idxOf (naturalBelow keyNote)) 'C') : Nat)
        = naturalBelow keyNote := by
  have h : ∀ natural ∈ Pitch.naturals,
      (letters.getD (Pitch.naturals.idxOf natural) 'C').between 'A' 'G' = true
        ∧ Pitch.ofDegree (letters.idxOf (letters.getD (Pitch.naturals.idxOf natural) 'C') : Nat)
          = natural := by decide
  exact h _ (naturalBelow_mem keyNote)

theorem wellFormed_musicOf {score : Score} (h : ∃ b ∈ score.beats, b.Lasts) :
    (musicOf score).WellFormed where
  letter := (key_musicOf score.keyNote).1
  accidental := by
    intro c hc
    rw [musicOf] at hc
    dsimp only at hc
    split at hc
    · exact Or.inl (Option.some.inj hc).symm
    · cases hc
  bpm := isNumeral_ofNat _
  chords_ne_nil := by
    obtain ⟨b, hb, hlasts⟩ := h
    exact List.ne_nil_of_mem (List.mem_map_of_mem (List.mem_filter.mpr ⟨hb, by simpa using hlasts⟩))
  chords := by
    intro c hc
    obtain ⟨b, -, rfl⟩ := List.mem_map.mp hc
    exact wellFormed_chordOf b

/-- The key comes back as a place in the octave. -/
theorem keyNote_musicOf (score : Score) : (musicOf score).keyNote = score.keyNote % 12 := by
  have hnatural := (key_musicOf score.keyNote).2
  have hbelow := naturalBelow_add score.keyNote
  rw [Music.keyNote, musicOf]
  dsimp only
  rw [hnatural]
  split
  case isTrue hacc =>
    rw [if_pos hacc] at hbelow
    exact (if_pos rfl).trans hbelow
  case isFalse hacc =>
    rw [if_neg hacc] at hbelow
    rw [if_neg (by simp), if_neg (by simp)]
    omega

theorem tempo_musicOf {score : Score} (h : 0 < score.bpm) :
    (musicOf score).tempo = .ok score.bpm := by
  have habs : (score.bpm.natAbs : Int) = score.bpm := Int.natAbs_of_nonneg h.le
  rw [Music.tempo, musicOf, Text.readNat_ofNat, habs, Score.checkBpm]
  dsimp only [Json.asInt?]
  rw [if_neg (by omega)]

/-- **The beats come back in order**, those without time left out and the others' rates in lowest
terms. -/
theorem toBeats_musicOf {score : Score} (hden : ∀ b ∈ score.beats, 0 < b.rate.den)
    (hnodup : ∀ b ∈ score.beats, b.tones.Nodup) :
    (musicOf score).toBeats = .ok ((score.beats.filter (·.Lasts)).map fun b =>
      { rate := .ofRat b.rate.value, tones := b.tones }) := by
  refine mapM_map_eq_pure fun b hb => ?_
  obtain ⟨hb, hlasts⟩ := List.mem_filter.mp hb
  have hnum := (Beat.lasts_iff (hden b hb)).mp (by simpa using hlasts)
  rw [← Rate.reduce_eq_ofRat (hden b hb)]
  exact toBeat_chordOf hnum (hden b hb) (hnodup b hb)

end SongSheet.CipherSheet
