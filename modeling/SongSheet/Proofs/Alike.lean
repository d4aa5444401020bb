import SongSheet.Midi.Track
import SongSheet.Proofs.Format
import SongSheet.Proofs.LetterSheet.Units
import SongSheet.Proofs.Traversal

/-!
# Rates that are written differently

`2/4` and `1/2` are different rates of one value. Everything that is made from a score does its own
arithmetic on the two fields of a rate: delays are divided down, units are counted out, lowest terms
are printed, positions are summed. **None of it tells rates of one value apart**, not even where it
fails (`alike_written`).

Each is shown to give for a score what it gives for that score with every rate in lowest terms
(`Score.reduced`), and scores that differ only in the form of their rates are one score then.
-/

set_option autoImplicit false

namespace SongSheet

/-! ## 1. Lowest terms -/

/-- A beat with its rate in lowest terms. -/
def Beat.reduced (b : Beat) : Beat := { b with rate := b.rate.reduce }

/-- A score with every rate in lowest terms. -/
def Score.reduced (score : Score) : Score := { score with beats := score.beats.map Beat.reduced }

/-- A walk along reduced beats whose steps do not see the difference. -/
theorem mapM_reduced {β ε : Type} {f g : Beat → Except ε β} {beats : List Beat}
    (h : ∀ b ∈ beats, f b.reduced = g b) : (beats.map Beat.reduced).mapM f = beats.mapM g := by
  induction beats with
  | nil => rfl
  | cons b beats ih =>
    rw [List.map_cons, List.mapM_cons, List.mapM_cons, h b List.mem_cons_self,
      ih fun b hb => h b (List.mem_cons_of_mem _ hb)]

/-! ## 2. What is made from a score with its rates in lowest terms -/

namespace Placement

theorem delay_reduce (bpm : Int) (rate : Rate) : delay bpm rate.reduce = delay bpm rate := by
  have hnum : rate.num * Score.msPerMinute
      = rate.divisor * (rate.reduce.num * Score.msPerMinute) := by
    rw [← Int.mul_assoc, ← rate.num_eq_divisor_mul]
  have hden : bpm * rate.den = rate.divisor * (bpm * rate.reduce.den) := by
    rw [Int.mul_left_comm, ← rate.den_eq_divisor_mul]
  rw [delay, delay, hnum, hden, Int.mul_fdiv_mul_of_pos _ _ rate.divisor_cast_pos]

theorem transposition_reduced (score : Score) (layout : KeyLayout) :
    transposition score.reduced layout = transposition score layout := by
  have hpitches : score.reduced.pitches = score.pitches := by
    rw [Score.pitches, Score.reduced, List.flatMap_map]
    rfl
  rw [transposition, transposition, hpitches]

theorem place_reduced (score : Score) (layout : KeyLayout) :
    place score.reduced layout = place score layout := by
  have hstrokes (shift : Int) :
      score.reduced.beats.mapM (stroke layout.pitches score.reduced shift)
        = score.beats.mapM (stroke layout.pitches score shift) := by
    refine mapM_reduced fun b _ => ?_
    show (do
      let pressed ← _
      return ⟨pressed, delay score.bpm b.rate.reduce⟩ : Except SheetError Stroke) = _
    rw [delay_reduce]
    rfl
  simp only [place, transposition_reduced, hstrokes]
  rfl

end Placement

theorem CipherSheet.write_reduced (score : Score) : write score.reduced = write score := by
  have hbeats : score.reduced.beats.flatMap beatText = score.beats.flatMap beatText := by
    rw [Score.reduced, List.flatMap_map]
    refine List.flatMap_congr fun b _ => ?_
    rw [beatText, Beat.reduced, Rate.reduce_reduce]
    rfl
  rw [write, write, hbeats]
  rfl

namespace LetterSheet

theorem unitsPerBeat_reduced (beats : List Beat) :
    unitsPerBeat (beats.map Beat.reduced) = unitsPerBeat beats := by
  simp only [unitsPerBeat, List.foldl_map, Beat.reduced, Rate.reduce_reduce]

/-- This takes positive denominators: the writer refuses a negative one by name. -/
theorem write_reduced {score : Score} (h : ∀ b ∈ score.beats, 0 < b.rate.den) :
    write score.reduced = write score := by
  have hwords : score.reduced.beats.mapM (beatWords (unitsPerBeat score.beats))
      = score.beats.mapM (beatWords (unitsPerBeat score.beats)) := by
    refine mapM_reduced fun b hb => ?_
    have hdvd : b.rate.value.den ∣ unitsPerBeat score.beats := by
      rw [unitsPerBeat_eq h]
      exact den_dvd_commonDenominator hb
    have hunits : units (unitsPerBeat score.beats) b.reduced.rate
        = units (unitsPerBeat score.beats) b.rate := by
      rw [units_eq (Rate.reduce_den_pos (h b hb)) (by rwa [Beat.reduced, Rate.value_reduce]),
        units_eq (h b hb) hdvd, unitsOf, unitsOf, Beat.reduced, Rate.value_reduce]
    rw [beatWords, beatWords, hunits]
    rfl
  have hunits : unitsPerBeat score.reduced.beats = unitsPerBeat score.beats :=
    unitsPerBeat_reduced score.beats
  rw [write, write, hunits, hwords]
  rfl

end LetterSheet

namespace Midi.Exporter

theorem messagesFrom_reduced (e : Exporter) (keyNote : Int) (position : Rat) (beats : List Beat) :
    e.messagesFrom keyNote position (beats.map Beat.reduced)
      = e.messagesFrom keyNote position beats := by
  induction beats generalizing position with
  | nil => rfl
  | cons b beats ih =>
    rw [List.map_cons, messagesFrom, messagesFrom, ih, Beat.reduced, Rate.value_reduce]

theorem track_reduced (e : Exporter) (score : Score) : e.track score.reduced = e.track score := by
  rw [track, track, Score.reduced, messagesFrom_reduced]
  rfl

end Midi.Exporter

theorem Format.writer_reduced (f : Format) (keyLayout : Option Text) {score : Score}
    (h : ∀ b ∈ score.beats, 0 < b.rate.den) :
    f.writer keyLayout score.reduced = f.writer keyLayout score := by
  cases f with
  | eventSheet =>
    rw [writer_eventSheet, writer_eventSheet, Placement.place_reduced]
    rfl
  | letterSheet => rw [writer_letterSheet, writer_letterSheet, LetterSheet.write_reduced h]
  | cipherSheet => rw [writer_cipherSheet, writer_cipherSheet, CipherSheet.write_reduced]
  | script =>
    simp only [writer_script, Placement.place_reduced]
    rfl

/-! ## 3. Scores that differ in the form of their rates -/

/-- The same tones for the same time, with positive denominators. -/
structure Beat.Alike (b b' : Beat) : Prop where
  den : 0 < b.rate.den
  den' : 0 < b'.rate.den
  value : b.rate.value = b'.rate.value
  tones : b.tones = b'.tones

/-- Scores that differ in nothing but the form of their rates. -/
structure Score.Alike (score score' : Score) : Prop where
  name : score.name = score'.name
  author : score.author = score'.author
  transcriber : score.transcriber = score'.transcriber
  keyNote : score.keyNote = score'.keyNote
  bpm : score.bpm = score'.bpm
  beats : List.Forall₂ Beat.Alike score.beats score'.beats

variable {score score' : Score}

theorem Beat.Alike.reduced_eq {b b' : Beat} (h : b.Alike b') : b.reduced = b'.reduced := by
  rw [Beat.reduced, Beat.reduced, Rate.reduce_eq_ofRat h.den, Rate.reduce_eq_ofRat h.den', h.value,
    h.tones]

/-- Scores that are alike are one in lowest terms. -/
theorem Score.Alike.reduced_eq (h : score.Alike score') : score.reduced = score'.reduced := by
  have hbeats : score.beats.map Beat.reduced = score'.beats.map Beat.reduced := by
    have hall : List.Forall₂ (· = ·) (score.beats.map Beat.reduced)
        (score'.beats.map Beat.reduced) := by
      rw [List.forall₂_map_left_iff, List.forall₂_map_right_iff]
      exact h.beats.imp fun b b' hb => hb.reduced_eq
    rwa [List.forall₂_eq_eq_eq] at hall
  simp only [Score.reduced, h.name, h.author, h.transcriber, h.keyNote, h.bpm, hbeats]

theorem Score.Alike.den_pos (h : score.Alike score') : ∀ b ∈ score.beats, 0 < b.rate.den := by
  intro b hb
  obtain ⟨b', -, hb'⟩ := exists_related_of_mem h.beats.flip hb
  exact hb'.den

theorem Score.Alike.den_pos' (h : score.Alike score') : ∀ b ∈ score'.beats, 0 < b.rate.den := by
  intro b hb
  obtain ⟨b', -, hb'⟩ := exists_related_of_mem h.beats hb
  exact hb'.den'

/-- A score is alike what it is in lowest terms. -/
theorem Score.alike_reduced (h : ∀ b ∈ score.beats, 0 < b.rate.den) :
    score.Alike score.reduced := by
  refine ⟨rfl, rfl, rfl, rfl, rfl, ?_⟩
  rw [Score.reduced, List.forall₂_map_right_iff, List.forall₂_same]
  exact fun b hb => ⟨h b hb, Rate.reduce_den_pos (h b hb), (Rate.value_reduce b.rate).symm, rfl⟩

/-- **Only the value of a rate matters**: scores that differ in nothing but the form of their rates
are placed alike on every layout, written alike in every format and under every option, and have the
same track, or fail in the same way. -/
theorem Score.alike_written (h : score.Alike score') :
    (∀ layout, Placement.place score layout = Placement.place score' layout)
      ∧ (∀ (f : Format) (keyLayout : Option Text),
        f.writer keyLayout score = f.writer keyLayout score')
      ∧ ∀ e : Midi.Exporter, e.track score = e.track score' := by
  refine ⟨?_, ?_, ?_⟩
  · intro layout
    rw [← Placement.place_reduced, h.reduced_eq, Placement.place_reduced]
  · intro f keyLayout
    rw [← f.writer_reduced keyLayout h.den_pos, h.reduced_eq, f.writer_reduced keyLayout h.den_pos']
  · intro e
    rw [← Midi.Exporter.track_reduced, h.reduced_eq, Midi.Exporter.track_reduced]

/-- Rates that can be reduced, among them one below zero and one of no time. -/
def Score.unreduced : Score where
  bpm := 60
  beats := [
    { rate := ⟨2, 4, by decide⟩, tones := [0, 4] },
    { rate := ⟨-3, 6, by decide⟩, tones := [7] },
    { rate := ⟨0, 5, by decide⟩, tones := [4] }]

theorem Score.alike_written_sample : unreduced.Alike unreduced.reduced
    ∧ unreduced ≠ unreduced.reduced
    ∧ (∀ layout, Placement.place unreduced layout = Placement.place unreduced.reduced layout)
    ∧ (∀ (f : Format) (keyLayout : Option Text),
      f.writer keyLayout unreduced = f.writer keyLayout unreduced.reduced)
    ∧ ∀ e : Midi.Exporter, e.track unreduced = e.track unreduced.reduced :=
  have halike : unreduced.Alike unreduced.reduced := alike_reduced (by decide)
  ⟨halike, by decide +kernel, alike_written halike⟩

end SongSheet
