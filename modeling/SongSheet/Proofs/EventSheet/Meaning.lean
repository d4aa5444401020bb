import Mathlib.Tactic.FieldSimp
import Mathlib.Tactic.Ring
import SongSheet.Proofs.EventSheet.Notes
import SongSheet.Proofs.Rate

/-!
# What event sheets mean

An event sheet is a list of notes in any order, and its score is made of rates. The rates do not
depend on each other: each is the gap to the next time, as a fraction of a beat, and nothing is
rounded. So **adding them up gives the times back exactly** (`onset_heard`), however many there are.
The chords hold the tones of all notes and no others (`flatMap_tones_heard`).

The order of the notes is heard nowhere but in the order of the tones within a chord
(`ofJson_reordered`), although the reader checks the notes one after another, the times before the
keys, and stops at the first that is none.
-/

set_option autoImplicit false

namespace SongSheet.EventSheet

/-! ## 1. Exact times -/

/-- The time in milliseconds, exactly, at which the beat with an index starts. -/
def onset (bpm : Int) (bs : List Beat) (i : Nat) : Rat :=
  ((bs.take i).map (·.rate.value)).sum * 60000 / bpm

/-- The rests in front of the first of these times. -/
def restsBefore : List Int → Nat
  | [] => 0
  | first :: _ => if 0 < first then 1 else 0

theorem value_gap (gap bpm : Int) (tones : List Int) :
    ({ rate := { num := gap * bpm, den := 60000 }, tones } : Beat).rate.value
      = (gap : Rat) * bpm / 60000 := by
  show Rat.divInt (gap * bpm) 60000 = _
  rw [Rat.divInt_eq_div]
  push_cast
  rfl

/-- The rates up to a chord add up to the time since the first one. -/
theorem sum_take_heldToNext (bpm : Int) (c : Int × List Int) (chords : List (Int × List Int))
    (i : Nat) (hi : i < (c :: chords).length) :
    (((heldToNext bpm (c :: chords)).take i).map (·.rate.value)).sum
      = (((c :: chords)[i].1 - c.1 : Int) : Rat) * bpm / 60000 := by
  induction chords generalizing c i with
  | nil =>
    have hzero : i = 0 := by simpa using hi
    subst hzero
    simp
  | cons next chords ih =>
    cases i with
    | zero => simp
    | succ i =>
      -- The gap to the next chord, and from there on the same with the next chord as the first.
      have hi' : i < (next :: chords).length := Nat.lt_of_succ_lt_succ hi
      rw [heldToNext_cons, List.take_succ_cons, List.map_cons, List.sum_cons, value_gap,
        ih next i hi', List.getElem_cons_succ]
      push_cast
      ring

/-- **Adding up the rates gives the times back.** -/
theorem onset_heard {bpm : Int} (hbpm : 0 < bpm) {chords : List (Int × List Int)}
    (hclock : ∀ c ∈ chords, 0 ≤ c.1) (i : Nat) (hi : i < chords.length) :
    onset bpm (heard bpm chords) (restsBefore (chords.map (·.1)) + i) = chords[i].1 := by
  have hne : (bpm : Rat) ≠ 0 := by
    rw [Int.cast_ne_zero]
    omega
  cases chords with
  | nil => cases hi
  | cons c chords =>
    have hsum := sum_take_heldToNext bpm c chords i hi
    rw [List.map_cons, restsBefore, heard_cons, onset]
    by_cases hstart : 0 < c.1
    · rw [if_pos hstart, if_pos hstart, Nat.add_comm 1 i, List.take_succ_cons, List.map_cons,
        List.sum_cons, value_gap, hsum]
      push_cast
      field_simp
      ring
    · have hzero : c.1 = 0 := by
        have hnonneg := hclock c List.mem_cons_self
        omega
      rw [if_neg hstart, if_neg hstart, Nat.zero_add, hsum, hzero, Int.sub_zero]
      field_simp

/-! ## 2. All notes and no others -/

/-- **The chords hold the tones of all notes**, each at its time, and nothing else sounds. -/
theorem flatMap_tones_heard (bpm : Int) (ns : List (Int × Nat)) :
    ((heard bpm (chordsOfNotes ns)).flatMap (·.tones)).Perm
      (ns.map fun n => Pitch.ofDegree n.2) := by
  have hheard : ∀ chords : List (Int × List Int),
      (heard bpm chords).flatMap (·.tones) = chords.flatMap (·.2) := by
    intro chords
    have hheld : (heldToNext bpm chords).flatMap (·.tones) = chords.flatMap (·.2) :=
      congrArg List.flatten (map_tones_heldToNext bpm chords)
    cases chords with
    | nil => rfl
    | cons c chords =>
      rw [heard_cons]
      split
      · rw [List.flatMap_cons, List.nil_append, hheld]
      · exact hheld
  have hnotes : ((moments (ns.map (·.1))).flatMap fun time => ns.filter (·.1 == time)).Perm ns := by
    refine flatMap_filter_perm ?_ fun n hn => ?_
    · exact (pairwise_moments _).imp fun hlt => ne_of_lt hlt
    · exact mem_moments.mpr (List.mem_map_of_mem hn)
  have htones := hnotes.map fun n => Pitch.ofDegree n.2
  rw [List.map_flatMap] at htones
  rw [hheard, chordsOfNotes, List.flatMap_map]
  exact htones

/-! ## 3. Notes in another order -/

/-- Documents whose sheets are the same, but for the order of the notes. -/
inductive Reordered : Json → Json → Prop
  | mk {fields fields' : List (Text × Json)} {others others' presses presses' : List Json}
      (hpresses : Json.field "songNotes" fields = .array presses)
      (hpresses' : Json.field "songNotes" fields' = .array presses') (hperm : presses.Perm presses')
      (hothers : ∀ name ≠ ("songNotes" : Text), Json.field name fields' = Json.field name fields) :
      Reordered (.array (.object fields :: others)) (.array (.object fields' :: others'))

theorem Reordered.symm {document document' : Json} (h : Reordered document document') :
    Reordered document' document := by
  obtain ⟨hpresses, hpresses', hperm, hothers⟩ := h
  exact .mk hpresses' hpresses hperm.symm fun name hname => (hothers name hname).symm

/-- The same score, but for the order of the tones in its beats. -/
structure SameUpToOrder (score score' : Score) : Prop where
  name : score'.name = score.name
  author : score'.author = score.author
  transcriber : score'.transcriber = score.transcriber
  keyNote : score'.keyNote = score.keyNote
  bpm : score'.bpm = score.bpm
  beats : List.Forall₂ (fun b b' => b'.rate = b.rate ∧ b'.tones.Perm b.tones)
    score.beats score'.beats

/-- The chords of notes in another order have the same times. -/
theorem forall₂_chordsOfNotes {ns ns' : List (Int × Nat)} (h : ns.Perm ns') :
    List.Forall₂ (fun c c' => c'.1 = c.1 ∧ c'.2.Perm (c.2.map (· + 0)))
      (chordsOfNotes ns) (chordsOfNotes ns') := by
  have htimes : moments (ns'.map (·.1)) = moments (ns.map (·.1)) := by
    refine List.Pairwise.eq_of_mem_iff (r := (· < ·)) (pairwise_moments _) (pairwise_moments _)
      fun time => ?_
    rw [mem_moments, mem_moments]
    exact (h.map _).symm.mem_iff
  rw [chordsOfNotes, chordsOfNotes, htimes, List.forall₂_map_left_iff, List.forall₂_map_right_iff,
    List.forall₂_same]
  intro time _
  refine ⟨rfl, ?_⟩
  simp only [Int.add_zero, List.map_id']
  exact (h.symm.filter _).map _

/-- **Reordered sheets are read alike.** -/
theorem ofJson_reordered {document document' : Json} (h : Reordered document document')
    {score : Score} (hscore : ofJson document = .ok score) :
    ∃ score', ofJson document' = .ok score' ∧ SameUpToOrder score score' := by
  cases h with
  | @mk fields fields' others others' presses presses' hpresses hpresses' hperm hothers =>
    obtain ⟨read, keyNote, bpm, objects, ns, hfields, hkeyNote, hbpm, hobjects, hns, rfl⟩ :=
      ofJson_eq_ok_iff.mp hscore
    obtain ⟨hopen, rfl⟩ : ¬(Json.field "isEncrypted" fields).isSet = true ∧ fields = read := by
      rw [sheetFields] at hfields
      split at hfields
      · cases hfields
      case isFalse hopen => exact ⟨hopen, Except.ok.inj hfields⟩
    have hfields' : sheetFields (.array (.object fields' :: others')) = .ok fields' := by
      rw [sheetFields, hothers "isEncrypted" (by decide), if_neg hopen]
    rw [hpresses, pressFields] at hobjects
    -- Both walks, the one to the objects and the one to the notes, go along in the other order.
    obtain ⟨objects', hobjects', hobjectsPerm⟩ := mapM_perm hperm hobjects
    obtain ⟨ns', hns', hnsPerm⟩ := mapM_perm hobjectsPerm hns
    refine ⟨scoreOfNotes fields' keyNote bpm ns', ofJson_eq_ok_iff.mpr
      ⟨fields', keyNote, bpm, objects', ns', hfields', ?_, ?_, ?_, hns', rfl⟩, ?_⟩
    · rw [hothers "pitchLevel" (by decide), hkeyNote]
    · rw [hothers "bpm" (by decide), hbpm]
    · rw [hpresses', pressFields, hobjects']
    · have hbeats := forall₂_heard bpm 0 (forall₂_chordsOfNotes hnsPerm)
      simp only [Int.add_zero, List.map_id'] at hbeats
      refine ⟨?_, ?_, ?_, rfl, rfl, hbeats⟩
      · rw [scoreOfNotes, scoreOfNotes, hothers "name" (by decide)]
      · rw [scoreOfNotes, scoreOfNotes, hothers "author" (by decide)]
      · rw [scoreOfNotes, scoreOfNotes, hothers "transcribedBy" (by decide)]

/-! ## 4. Sheets -/

/-- A score that is made of notes: a rest up to the first of their times, and for each time one beat
up to the next, with the tones of all the notes at that time in order. The rates in front of a beat
add up to its time, and there are as many tones as notes. -/
structure IsScoreOf (ns : List (Int × Nat)) (times : List Int) (score : Score) : Prop where
  increasing : times.Pairwise (· < ·)
  mem_times : ∀ time, time ∈ times ↔ time ∈ ns.map (·.1)
  beats : score.beats = heard score.bpm (times.map fun time => (time, tonesOfNotes ns time))
  onset : ∀ (i : Nat) (h : i < times.length),
    EventSheet.onset score.bpm score.beats (restsBefore times + i) = times[i]
  tones : (score.beats.flatMap (·.tones)).Perm (ns.map fun n => Pitch.ofDegree n.2)

theorem isScoreOf_of_read {t : Text} {score : Score} (h : read t = .ok score) :
    ∃ ns times, notes t = .ok ns ∧ IsScoreOf ns times score := by
  obtain ⟨ns, hns, hrange, hbeats⟩ := beats_of_read h
  obtain ⟨chords, hread⟩ := exists_chords_of_read h
  have hclock : ∀ c ∈ chordsOfNotes ns, 0 ≤ c.1 := by
    intro c hc
    obtain ⟨time, htime, rfl⟩ := List.mem_map.mp hc
    obtain ⟨n, hn, rfl⟩ := List.mem_map.mp (mem_moments.mp htime)
    exact (hrange n hn).1
  have htimes : (chordsOfNotes ns).map (·.1) = moments (ns.map (·.1)) := by
    rw [chordsOfNotes, List.map_map]
    exact List.map_id _
  refine ⟨ns, moments (ns.map (·.1)), hns, ?_⟩
  refine ⟨pairwise_moments _, fun _ => mem_moments, hbeats, ?_, ?_⟩
  · intro i hi
    have hi' : i < (chordsOfNotes ns).length := by rwa [chordsOfNotes, List.length_map]
    have honset := onset_heard hread.bpm hclock i hi'
    rw [htimes, ← hbeats] at honset
    simpa [chordsOfNotes] using honset
  · rw [hbeats]
    exact flatMap_tones_heard score.bpm ns

/-- **What an event sheet means, and that the order of its notes does not matter.** -/
theorem score_of_notes :
    (∀ (t : Text) (score : Score), read t = .ok score →
      ∃ ns times, notes t = .ok ns ∧ IsScoreOf ns times score)
    ∧ ∀ (t t' : Text) (document document' : Json), Json.read t = .ok document →
      Json.read t' = .ok document' → Reordered document document' →
      ((∃ score, read t = .ok score) ↔ ∃ score', read t' = .ok score')
      ∧ ∀ score score', read t = .ok score → read t' = .ok score' →
        SameUpToOrder score score' := by
  have hread : ∀ {t : Text} {document : Json}, Json.read t = .ok document →
      read t = ofJson document := by
    intro t document hdocument
    rw [read, hdocument]
  refine ⟨fun t score h => isScoreOf_of_read h, fun t t' document document' ht ht' h => ?_⟩
  rw [hread ht, hread ht']
  refine ⟨⟨?_, ?_⟩, ?_⟩
  · rintro ⟨score, hscore⟩
    obtain ⟨score', hscore', -⟩ := ofJson_reordered h hscore
    exact ⟨score', hscore'⟩
  · rintro ⟨score', hscore'⟩
    obtain ⟨score, hscore, -⟩ := ofJson_reordered h.symm hscore'
    exact ⟨score, hscore⟩
  · intro score score' hscore hscore'
    obtain ⟨score'', hscore'', hsame⟩ := ofJson_reordered h hscore
    rw [Except.ok.inj (hscore'.symm.trans hscore'')]
    exact hsame

/-- A sheet with these presses. -/
def sheetText (presses : List Text) : Text :=
  ("[\x7b\"pitchLevel\":0,\"bpm\":90,\"songNotes\":[" : Text) ++ Text.join "," presses
    ++ ("]\x7d]" : Text)

/-- Its document. -/
def sheetJson (presses : List Json) : Json :=
  .array [.object [("pitchLevel", .int 0), ("bpm", .int 90), ("songNotes", .array presses)]]

theorem reordered_sheetJson {presses presses' : List Json} (h : presses.Perm presses') :
    Reordered (sheetJson presses) (sheetJson presses') := by
  refine .mk rfl rfl h fun name hname => ?_
  simp [Json.field, Json.lookup?, valueOf?, List.find?_cons, Ne.symm hname]

/-- The first key, the fifth before it, and the third together with the first: as they are written,
and what they are. -/
def threePresses : List (Text × Json) := [
  ("\x7b\"time\":700,\"key\":\"1Key0\"\x7d", press 700 true 0),
  ("\x7b\"time\":250,\"key\":\"1Key4\"\x7d", press 250 true 4),
  ("\x7b\"time\":700,\"key\":\"2Key2\"\x7d", press 700 false 2)]

/-- Three presses in this order, and the other way round. -/
theorem score_of_notes_sample : ∃ score score',
    read (sheetText (threePresses.map (·.1))) = .ok score
      ∧ read (sheetText (threePresses.reverse.map (·.1))) = .ok score'
      ∧ score.beats = [⟨⟨22500, 60000, by decide⟩, []⟩, ⟨⟨40500, 60000, by decide⟩, [7]⟩,
        ⟨.ofInt 4, [0, 4]⟩]
      ∧ (∃ ns times, notes (sheetText (threePresses.map (·.1))) = .ok ns
        ∧ IsScoreOf ns times score)
      ∧ SameUpToOrder score score' := by
  have hdocument : Json.read (sheetText (threePresses.map (·.1)))
      = .ok (sheetJson (threePresses.map (·.2))) := by decide +kernel
  have hdocument' : Json.read (sheetText (threePresses.reverse.map (·.1)))
      = .ok (sheetJson (threePresses.reverse.map (·.2))) := by decide +kernel
  have hreordered := reordered_sheetJson (threePresses.reverse_perm.symm.map (·.2))
  let score : Score := { name := .string "Unknown", bpm := 90, beats := [
    ⟨⟨22500, 60000, by decide⟩, []⟩, ⟨⟨40500, 60000, by decide⟩, [7]⟩, ⟨.ofInt 4, [0, 4]⟩] }
  have hscore : read (sheetText (threePresses.map (·.1))) = .ok score := by decide +kernel
  obtain ⟨hiff, hsame⟩ := score_of_notes.2 _ _ _ _ hdocument hdocument' hreordered
  obtain ⟨score', hscore'⟩ := hiff.mp ⟨score, hscore⟩
  exact ⟨score, score', hscore, hscore', rfl, score_of_notes.1 _ score hscore,
    hsame score score' hscore hscore'⟩

end SongSheet.EventSheet
