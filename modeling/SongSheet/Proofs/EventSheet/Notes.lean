import SongSheet.Proofs.EventSheet.Rewriting

/-!
# Event sheets — the notes that are there

What a sheet says is its notes: a time and a key each, in the order in which they stand (`notes`).
The reader takes times and keys apart: first it gathers the labels by time, then it looks up the
keys chord by chord. **The score is that of the notes all the same** (`beats_of_read`): at each time
there is one chord, and its tones are those of all the notes at that time, in order and as often as
they come (`chordsOfNotes`).
-/

set_option autoImplicit false

namespace SongSheet.EventSheet

/-- The time and the key of a note. -/
def noteOf (fields : List (Text × Json)) : Except SheetError (Int × Nat) := do
  let time ← checkTime (Json.field "time" fields)
  let key ← checkKey (Json.field "key" fields)
  return (time, key)

/-- The notes of a sheet, in order. -/
def notes (t : Text) : Except SheetError (List (Int × Nat)) := do
  let document ← (Json.read t).mapError .eventJson
  let fields ← sheetFields document
  let presses ← pressFields (Json.field "songNotes" fields)
  presses.mapM noteOf

/-- The tones of the notes at a time. -/
def tonesOfNotes (ns : List (Int × Nat)) (time : Int) : List Int :=
  (ns.filter (·.1 == time)).map fun n => Pitch.ofDegree n.2

/-- The chords of notes: their times in order, each with the tones of all the notes at it. -/
def chordsOfNotes (ns : List (Int × Nat)) : List (Int × List Int) :=
  (moments (ns.map (·.1))).map fun time => (time, tonesOfNotes ns time)

/-! ## 1. Times and keys together -/

/-- A note that was taken apart: its time is known, its key is a label still. -/
def IsNote (p : Int × Json) (n : Int × Nat) : Prop := n.1 = p.1 ∧ checkKey p.2 = .ok n.2

/-- The labels at a time are those of the notes at that time. -/
theorem mapM_checkKey {timed : List (Int × Json)} {ns : List (Int × Nat)}
    (h : List.Forall₂ IsNote timed ns) (time : Int) :
    ((timed.filter (·.1 == time)).map (·.2)).mapM checkKey
      = .ok ((ns.filter (·.1 == time)).map (·.2)) := by
  rw [mapM_eq_ok_iff, List.forall₂_map_left_iff, List.forall₂_map_right_iff]
  have hfilter : List.Forall₂ IsNote (timed.filter (·.1 == time)) (ns.filter (·.1 == time)) := by
    refine List.rel_filter (fun {p n} hpn => ?_) h
    show (p.1 == time) = true ↔ (n.1 == time) = true
    rw [hpn.1]
  exact hfilter.imp fun p n hpn => hpn.2

/-- **The chords of the labels are those of the notes.** -/
theorem mapM_chords {timed : List (Int × Json)} {ns : List (Int × Nat)}
    (h : List.Forall₂ IsNote timed ns) :
    ((chords timed).mapM fun (time, labels) => do
      let keys ← labels.mapM checkKey
      return (time, keys.map fun (key : Nat) => Pitch.ofDegree key)) = .ok (chordsOfNotes ns) := by
  have htimes : timed.map (·.1) = ns.map (·.1) := by
    rw [← List.forall₂_eq_eq_eq, List.forall₂_map_left_iff, List.forall₂_map_right_iff]
    exact h.imp fun p n hpn => hpn.1.symm
  rw [chords_eq, htimes]
  refine mapM_map_eq_pure fun time _ => ?_
  show ((timed.filter (·.1 == time)).map (·.2)).mapM checkKey >>= _ = _
  rw [mapM_checkKey h, ok_bind, List.map_map]
  rfl

/-- Every label has its key where every chord has its keys. -/
theorem exists_notes {timed : List (Int × Json)} {sounding : List (Int × List Int)}
    (h : ((chords timed).mapM fun (time, labels) => do
      let keys ← labels.mapM checkKey
      return (time, keys.map fun (key : Nat) => Pitch.ofDegree key)) = .ok sounding) :
    ∃ ns, List.Forall₂ IsNote timed ns := by
  -- A label was looked up with the chord of its time.
  have hkeys : ∀ p ∈ timed, ∃ key, checkKey p.2 = .ok key := by
    intro p hp
    have hchord : (p.1, (timed.filter (·.1 == p.1)).map (·.2)) ∈ chords timed := by
      rw [chords_eq]
      exact List.mem_map_of_mem (mem_moments.mpr (List.mem_map_of_mem hp))
    obtain ⟨c, hc⟩ := exists_mapM_iff.mp ⟨_, h⟩ _ hchord
    obtain ⟨keys, hkeys, -⟩ := bind_eq_ok hc
    have hlabel : p.2 ∈ (timed.filter (·.1 == p.1)).map (·.2) :=
      List.mem_map_of_mem (List.mem_filter.mpr ⟨hp, beq_self_eq_true p.1⟩)
    exact exists_mapM_iff.mp ⟨_, hkeys⟩ _ hlabel
  clear h
  induction timed with
  | nil => exact ⟨[], .nil⟩
  | cons p timed ih =>
    obtain ⟨key, hkey⟩ := hkeys p (by simp)
    obtain ⟨ns, hns⟩ := ih fun q hq => hkeys q (by simp [hq])
    exact ⟨(p.1, key) :: ns, .cons ⟨rfl, hkey⟩ hns⟩

/-! ## 2. The score of the notes -/

/-- Notes that were taken apart and put together again are the notes of their objects. -/
theorem mapM_noteOf {presses : List (List (Text × Json))} {timed : List (Int × Json)}
    {ns : List (Int × Nat)}
    (htimed : (presses.mapM fun press => do
      return (← checkTime (Json.field "time" press), Json.field "key" press)) = .ok timed)
    (hns : List.Forall₂ IsNote timed ns) : presses.mapM noteOf = .ok ns := by
  have hall := mapM_eq_ok_iff.mp htimed
  clear htimed
  rw [mapM_eq_ok_iff]
  induction hall generalizing ns with
  | nil =>
    cases hns
    exact .nil
  | cons hpress _ ih =>
    obtain ⟨⟨noteTime, key⟩, others, hnote, hothers, rfl⟩ := List.forall₂_cons_left_iff.mp hns
    obtain ⟨time, htime, hpress⟩ := bind_eq_ok hpress
    cases hpress
    obtain ⟨rfl, hkey⟩ := hnote
    refine .cons ?_ (ih hothers)
    rw [noteOf, htime, ok_bind, hkey, ok_bind]
    rfl

/-- Notes can be taken apart. -/
theorem exists_timed {presses : List (List (Text × Json))} {ns : List (Int × Nat)}
    (h : presses.mapM noteOf = .ok ns) :
    ∃ timed, (presses.mapM fun press => do
        return (← checkTime (Json.field "time" press), Json.field "key" press)) = .ok timed
      ∧ List.Forall₂ IsNote timed ns := by
  have hall := mapM_eq_ok_iff.mp h
  clear h
  induction hall with
  | nil => exact ⟨[], rfl, .nil⟩
  | @cons press n presses ns hpress _ ih =>
    obtain ⟨timed, htimed, hns⟩ := ih
    obtain ⟨time, htime, hpress⟩ := bind_eq_ok hpress
    obtain ⟨key, hkey, hpress⟩ := bind_eq_ok hpress
    cases hpress
    refine ⟨(time, Json.field "key" press) :: timed, ?_, .cons ⟨rfl, hkey⟩ hns⟩
    rw [List.mapM_cons, htime, ok_bind, htimed]
    rfl

/-- A note that is read has a time on the clock and a key on the instrument. -/
theorem range_of_noteOf {presses : List (List (Text × Json))} {ns : List (Int × Nat)}
    (h : presses.mapM noteOf = .ok ns) : ∀ n ∈ ns, 0 ≤ n.1 ∧ n.2 < layout.keyCount := by
  intro n hn
  obtain ⟨press, -, hpress⟩ := exists_related_of_mem (mapM_eq_ok_iff.mp h) hn
  obtain ⟨time, htime, hpress⟩ := bind_eq_ok hpress
  obtain ⟨key, hkey, hpress⟩ := bind_eq_ok hpress
  cases hpress
  exact ⟨nonneg_of_checkTime htime, lt_of_checkKey hkey⟩

/-- The reader holds the chords of notes each up to the next. -/
theorem beats_chordsOfNotes {bpm : Int} {ns : List (Int × Nat)} (h : ∀ n ∈ ns, 0 ≤ n.1) :
    beats bpm 0 [] (chordsOfNotes ns) = heard bpm (chordsOfNotes ns) := by
  refine beats_eq_heard ?_ fun c hc => ?_
  · exact List.pairwise_map.mpr (pairwise_moments _)
  · obtain ⟨time, htime, rfl⟩ := List.mem_map.mp hc
    obtain ⟨n, hn, rfl⟩ := List.mem_map.mp (mem_moments.mp htime)
    exact h n hn

/-- The score of a sheet with these metadata and these notes. -/
def scoreOfNotes (fields : List (Text × Json)) (keyNote bpm : Int) (ns : List (Int × Nat)) :
    Score where
  name := (Json.field "name" fields).orElse (.string "Unknown")
  author := (Json.field "author" fields).orElse (.string [])
  transcriber := (Json.field "transcribedBy" fields).orElse (.string [])
  keyNote := keyNote
  bpm := bpm
  beats := heard bpm (chordsOfNotes ns)

/-- **What is read of a document**: the score of its notes, if all of them are notes and the level
and the tempo are sound. -/
theorem ofJson_eq_ok_iff {document : Json} {score : Score} :
    ofJson document = .ok score ↔ ∃ fields keyNote bpm presses ns,
      sheetFields document = .ok fields
      ∧ Score.checkPitchLevel (Json.field "pitchLevel" fields) = .ok keyNote
      ∧ Score.checkBpm (Json.field "bpm" fields) = .ok bpm
      ∧ pressFields (Json.field "songNotes" fields) = .ok presses
      ∧ presses.mapM noteOf = .ok ns ∧ score = scoreOfNotes fields keyNote bpm ns := by
  constructor
  · intro h
    obtain ⟨fields, hfields, h⟩ := bind_eq_ok h
    obtain ⟨keyNote, hkeyNote, h⟩ := bind_eq_ok h
    obtain ⟨bpm, hbpm, h⟩ := bind_eq_ok h
    obtain ⟨presses, hpresses, h⟩ := bind_eq_ok h
    obtain ⟨timed, htimed, h⟩ := bind_eq_ok h
    obtain ⟨sounding, hsounding, h⟩ := bind_eq_ok h
    cases h
    obtain ⟨ns, hns⟩ := exists_notes hsounding
    cases (mapM_chords hns).symm.trans hsounding
    have hnotes : presses.mapM noteOf = .ok ns := mapM_noteOf htimed hns
    refine ⟨fields, keyNote, bpm, presses, ns, hfields, hkeyNote, hbpm, hpresses, hnotes, ?_⟩
    rw [beats_chordsOfNotes fun n hn => (range_of_noteOf hnotes n hn).1]
    rfl
  · rintro ⟨fields, keyNote, bpm, presses, ns, hfields, hkeyNote, hbpm, hpresses, hnotes, rfl⟩
    obtain ⟨timed, htimed, hns⟩ := exists_timed hnotes
    rw [ofJson, hfields, ok_bind, hkeyNote, ok_bind, hbpm, ok_bind, hpresses, ok_bind, htimed,
      ok_bind, mapM_chords hns, ok_bind, beats_chordsOfNotes fun n hn =>
        (range_of_noteOf hnotes n hn).1]
    rfl

/-- **A sheet that is read is heard as its notes are**: a rest up to the first of them, and then one
chord for each time at which there are notes, with the tones of all of them, up to the next. -/
theorem beats_of_read {t : Text} {score : Score} (h : read t = .ok score) :
    ∃ ns, notes t = .ok ns ∧ (∀ n ∈ ns, 0 ≤ n.1 ∧ n.2 < layout.keyCount)
      ∧ score.beats = heard score.bpm (chordsOfNotes ns) := by
  rw [read] at h
  split at h
  case h_2 => cases h
  case h_1 document hdocument =>
    obtain ⟨fields, keyNote, bpm, presses, ns, hfields, -, -, hpresses, hnotes, rfl⟩ :=
      ofJson_eq_ok_iff.mp h
    refine ⟨ns, ?_, range_of_noteOf hnotes, rfl⟩
    rw [notes, hdocument]
    show (sheetFields document >>= fun fields => _) = _
    rw [hfields, ok_bind, hpresses, ok_bind, hnotes]

end SongSheet.EventSheet
