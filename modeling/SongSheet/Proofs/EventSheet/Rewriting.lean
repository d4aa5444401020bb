import Mathlib.Algebra.BigOperators.Group.List.Basic
import Mathlib.Data.List.Sort
import SongSheet.Proofs.EventSheet.RoundTrip
import SongSheet.Proofs.Json.Tidy
import SongSheet.Proofs.Score

/-!
# Event sheets — a sheet that was read is written again

A reader takes the keys of a sheet for tones: they count from the pitch level. The writer puts
*pitches* on the keys, tones counted from the level already, and gives the level once more. So a
sheet that was read can always be written, and its beats come back where they were, but **its
pitches move by the level and by the transposition** (`pitches_rewritten`). They stay only where the
one makes up for the other; a sheet of level zero does.
-/

set_option autoImplicit false

namespace SongSheet.EventSheet

/-! ## 1. What the reader makes -/

theorem nonneg_of_checkTime {value : Json} {time : Int} (h : checkTime value = .ok time) :
    0 ≤ time := by
  revert h
  fun_cases checkTime value with
  | case1 => exact nofun
  | case2 => exact nofun
  | case3 whole? hwhole n hrange =>
    intro h
    cases h
    exact Int.not_lt.mp hrange

theorem lt_of_checkKey {label : Json} {key : Nat} (h : checkKey label = .ok key) :
    key < layout.keyCount := by
  unfold checkKey at h
  split at h
  case h_1 =>
    split at h
    case h_1 =>
      split_ifs at h with hlt
      cases h
      exact hlt
    case h_2 => cases h
  case h_2 => cases h

/-- Every chord of presses has a press. -/
theorem mem_chords {timed : List (Int × Json)} {c : Int × List Json} (h : c ∈ chords timed) :
    (∃ p ∈ timed, p.1 = c.1) ∧ c.2 ≠ [] := by
  rw [chords_eq] at h
  obtain ⟨time, htime, rfl⟩ := List.mem_map.mp h
  obtain ⟨p, hp, rfl⟩ := List.mem_map.mp (mem_moments.mp htime)
  have hown : p.2 ∈ (timed.filter (·.1 == p.1)).map (·.2) :=
    List.mem_map_of_mem (List.mem_filter.mpr ⟨hp, beq_self_eq_true p.1⟩)
  exact ⟨⟨p, hp, rfl⟩, List.ne_nil_of_mem hown⟩

/-- Chords as the reader finds them: at different times in order, each with tones, and every tone is
that of a key. -/
structure AreRead (chords : List (Int × List Int)) : Prop where
  increasing : chords.Pairwise (·.1 < ·.1)
  onset_nonneg : ∀ c ∈ chords, 0 ≤ c.1
  tones_ne_nil : ∀ c ∈ chords, c.2 ≠ []
  onKeys : ∀ c ∈ chords, ∀ tone ∈ c.2,
    ∃ key < layout.keyCount, layout.keyPitch (key : Nat) = tone

/-- What the reader makes of the labels at one time. -/
theorem tones_of_labels {chord : Int × List Json} {sounding : Int × List Int}
    (h : (do
      let keys ← chord.2.mapM checkKey
      return (chord.1, keys.map fun (key : Nat) => Pitch.ofDegree key)) = .ok sounding) :
    sounding.1 = chord.1 ∧ List.Forall₂ (fun _ tone => ∃ key < layout.keyCount,
      layout.keyPitch (key : Nat) = tone) chord.2 sounding.2 := by
  obtain ⟨keys, hkeys, h⟩ := bind_eq_ok h
  cases h
  refine ⟨rfl, ?_⟩
  rw [List.forall₂_map_right_iff]
  exact (mapM_eq_ok_iff.mp hkeys).imp fun _ key hkey =>
    ⟨key, lt_of_checkKey hkey, keyPitch_layout key⟩

theorem areRead_of_chords {timed : List (Int × Json)} {sounding : List (Int × List Int)}
    (htimed : ∀ p ∈ timed, 0 ≤ p.1)
    (h : ((chords timed).mapM fun (time, labels) => do
      let keys ← labels.mapM checkKey
      return (time, keys.map fun (key : Nat) => Pitch.ofDegree key)) = .ok sounding) :
    AreRead sounding := by
  have hall := (mapM_eq_ok_iff.mp h).imp fun _ _ => tones_of_labels
  have htimes : sounding.map (·.1) = moments (timed.map (·.1)) := by
    have hmoments : (chords timed).map (·.1) = moments (timed.map (·.1)) := by
      rw [chords_eq, List.map_map]
      exact List.map_id _
    rw [← hmoments, ← List.forall₂_eq_eq_eq, List.forall₂_map_left_iff, List.forall₂_map_right_iff]
    exact hall.flip.imp fun _ _ hs => hs.1
  refine ⟨?_, ?_, ?_, ?_⟩
  · have hincreasing := pairwise_moments (timed.map (·.1))
    rw [← htimes, List.pairwise_map] at hincreasing
    exact hincreasing
  · intro s hs
    obtain ⟨c, hc, htime, -⟩ := exists_related_of_mem hall hs
    obtain ⟨⟨p, hp, hclock⟩, -⟩ := mem_chords hc
    rw [htime, ← hclock]
    exact htimed p hp
  · intro s hs
    obtain ⟨c, hc, -, htones⟩ := exists_related_of_mem hall hs
    have hlength := htones.length_eq
    have hpos := List.length_pos_of_ne_nil (mem_chords hc).2
    exact List.ne_nil_of_length_pos (by omega)
  · intro s hs tone htone
    obtain ⟨c, -, -, htones⟩ := exists_related_of_mem hall hs
    obtain ⟨-, -, hkey⟩ := exists_related_of_mem htones htone
    exact hkey

/-- The metadata of a score are tidy, whatever they are. -/
def TidyMetadata (score : Score) : Prop :=
  score.name.Tidy ∧ score.author.Tidy ∧ score.transcriber.Tidy

/-- A score that the reader makes: what is heard of chords as it finds them. -/
structure IsRead (score : Score) (chords : List (Int × List Int)) : Prop where
  areRead : AreRead chords
  beats : score.beats = heard score.bpm chords
  level : 0 ≤ score.keyNote ∧ score.keyNote ≤ 11
  bpm : 0 < score.bpm
  metadata : TidyMetadata score

theorem tidy_field {fields : List (Text × Json)} (h : Json.TidyFields fields) (name : Text) :
    (Json.field name fields).Tidy := by
  rw [Json.field, Json.lookup?, valueOf?]
  cases hfind : fields.find? (·.1 = name) with
  | none => trivial
  | some field => exact Json.tidyFields_iff.mp h field (List.mem_of_find?_eq_some hfind)

theorem tidy_orElse {value default : Json} (h : value.Tidy) (hdefault : default.Tidy) :
    (value.orElse default).Tidy := by
  rw [Json.orElse]
  split
  · exact h
  · exact hdefault

theorem tidy_of_sheetFields {document : Json} {fields : List (Text × Json)}
    (h : sheetFields document = .ok fields) (htidy : document.Tidy) : Json.TidyFields fields := by
  unfold sheetFields at h
  split at h
  case h_1 => cases h
  case h_2 =>
    split_ifs at h
    cases h
    exact htidy.1.2
  case h_3 => cases h

/-- **What the reader accepts is in order**: a level, a tempo, and chords in the order of time whose
tones are those of keys. -/
theorem exists_chords_of_ofJson {document : Json} {score : Score} (h : ofJson document = .ok score)
    (htidy : document.Tidy) : ∃ chords, IsRead score chords := by
  obtain ⟨fields, hfields, h⟩ := bind_eq_ok h
  obtain ⟨keyNote, hkeyNote, h⟩ := bind_eq_ok h
  obtain ⟨bpm, hbpm, h⟩ := bind_eq_ok h
  obtain ⟨presses, -, h⟩ := bind_eq_ok h
  obtain ⟨timed, htimed, h⟩ := bind_eq_ok h
  obtain ⟨sounding, hsounding, h⟩ := bind_eq_ok h
  cases h
  have hclock : ∀ p ∈ timed, 0 ≤ p.1 := by
    intro p hp
    obtain ⟨press, -, hpress⟩ := exists_related_of_mem (mapM_eq_ok_iff.mp htimed) hp
    obtain ⟨time, htime, hpress⟩ := bind_eq_ok hpress
    cases hpress
    exact nonneg_of_checkTime htime
  have hread := areRead_of_chords hclock hsounding
  have hsheet := tidy_of_sheetFields hfields htidy
  exact ⟨sounding, hread, beats_eq_heard hread.increasing hread.onset_nonneg,
    Score.range_of_checkPitchLevel hkeyNote, Score.pos_of_checkBpm hbpm,
    tidy_orElse (tidy_field hsheet _) trivial, tidy_orElse (tidy_field hsheet _) trivial,
    tidy_orElse (tidy_field hsheet _) trivial⟩

theorem exists_chords_of_read {text : Text} {score : Score} (h : read text = .ok score) :
    ∃ chords, IsRead score chords := by
  rw [read] at h
  split at h
  case h_1 document hdocument => exact exists_chords_of_ofJson h (Json.tidy_of_read hdocument)
  case h_2 => cases h

/-! ## 2. On the clock again -/

variable {score : Score} {shift : Int} {chords : List (Int × List Int)}

theorem heldToNext_cons (bpm : Int) (c next : Int × List Int) (rest : List (Int × List Int)) :
    heldToNext bpm (c :: next :: rest)
      = { rate := { num := (next.1 - c.1) * bpm, den := 60000 }, tones := c.2 }
        :: heldToNext bpm (next :: rest) := rfl

theorem heard_cons (bpm : Int) (c : Int × List Int) (rest : List (Int × List Int)) :
    heard bpm (c :: rest)
      = if 0 < c.1 then
          { rate := { num := c.1 * bpm, den := 60000 }, tones := [] } :: heldToNext bpm (c :: rest)
        else heldToNext bpm (c :: rest) := rfl

/-- The beats of chords have their tones. -/
theorem map_tones_heldToNext (bpm : Int) (chords : List (Int × List Int)) :
    (heldToNext bpm chords).map (·.tones) = chords.map (·.2) := by
  induction chords with
  | nil => rfl
  | cons c chords ih =>
    cases chords with
    | nil => rfl
    | cons next chords =>
      rw [heldToNext_cons, List.map_cons, ih]
      rfl

/-- A gap between onsets that was made a rate is that gap again. -/
theorem milliseconds_gap {bpm : Int} (hbpm : 0 < bpm) (gap : Int) (tones : List Int) :
    milliseconds bpm { rate := { num := gap * bpm, den := 60000 }, tones } = gap := by
  have hproduct : 60000 * (gap * bpm) = gap * (bpm * 60000) := by
    rw [Int.mul_left_comm, Int.mul_comm 60000]
  show 60000 * (gap * bpm) / (bpm * 60000) = gap
  rw [hproduct]
  exact Int.mul_ediv_cancel gap (by omega)

/-- A chord at the pitches that are pressed for it. -/
def chordAtPitch (keyNote shift : Int) (c : Int × List Int) : Int × List Int :=
  (c.1, c.2.map (· + keyNote + shift))

theorem sounded_heldToNext (hbpm : 0 < score.bpm) {c : Int × List Int}
    (htones : ∀ d ∈ c :: chords, d.2 ≠ []) :
    sounded score shift c.1 (heldToNext score.bpm (c :: chords))
      = (c :: chords).map (chordAtPitch score.keyNote shift) := by
  induction chords generalizing c with
  | nil =>
    have hc : ¬c.2.isEmpty = true := by simpa using htones c (by simp)
    rw [heldToNext, sounded_cons, if_neg hc]
    rfl
  | cons next chords ih =>
    have hc : ¬c.2.isEmpty = true := by simpa using htones c (by simp)
    have hclock : c.1 + (next.1 - c.1) = next.1 := by omega
    rw [heldToNext_cons, sounded_cons, if_neg hc, milliseconds_gap hbpm, hclock,
      ih fun d hd => htones d (List.mem_cons_of_mem _ hd)]
    rfl

/-- **What is heard of chords sounds at their onsets.** -/
theorem sounded_heard (hbpm : 0 < score.bpm) (h : AreRead chords) :
    sounded score shift 0 (heard score.bpm chords)
      = chords.map (chordAtPitch score.keyNote shift) := by
  cases chords with
  | nil => rfl
  | cons c chords =>
    have honset := h.onset_nonneg c (by simp)
    rw [heard_cons]
    by_cases hstart : 0 < c.1
    · rw [if_pos hstart, sounded_cons, milliseconds_gap hbpm, Int.zero_add]
      exact sounded_heldToNext hbpm h.tones_ne_nil
    · have hzero : c.1 = 0 := by omega
      rw [if_neg hstart, ← hzero]
      exact sounded_heldToNext hbpm h.tones_ne_nil

/-- A beat that is heard lasts and has the tones of a chord. -/
theorem mem_heldToNext {bpm : Int} (hbpm : 0 < bpm) (h : chords.Pairwise (·.1 < ·.1)) :
    ∀ b ∈ heldToNext bpm chords,
      0 < b.rate.num ∧ 0 < b.rate.den ∧ ∃ c ∈ chords, b.tones = c.2 := by
  induction chords with
  | nil => exact nofun
  | cons c chords ih =>
    cases chords with
    | nil =>
      intro b hb
      rw [List.mem_singleton.mp hb]
      exact ⟨(by decide : (0 : Int) < 4), (by decide : (0 : Int) < 1), c, by simp, rfl⟩
    | cons next chords =>
      obtain ⟨hfirst, hrest⟩ := List.pairwise_cons.mp h
      intro b hb
      rcases List.mem_cons.mp hb with rfl | hb
      · have hlt : c.1 < next.1 := hfirst next (by simp)
        exact ⟨Int.mul_pos (by omega) hbpm, (by decide : (0 : Int) < 60000), c, by simp, rfl⟩
      · obtain ⟨hnum, hden, d, hd, htones⟩ := ih hrest b hb
        exact ⟨hnum, hden, d, List.mem_cons_of_mem _ hd, htones⟩

theorem mem_heard {bpm : Int} (hbpm : 0 < bpm) (h : chords.Pairwise (·.1 < ·.1)) :
    ∀ b ∈ heard bpm chords, 0 < b.rate.num ∧ 0 < b.rate.den
      ∧ (b.tones = [] ∨ ∃ c ∈ chords, b.tones = c.2) := by
  have hheld := mem_heldToNext hbpm h
  intro b hb
  cases chords with
  | nil =>
    rw [List.mem_singleton.mp hb]
    exact ⟨by decide, by decide, .inl rfl⟩
  | cons c chords =>
    rw [heard_cons] at hb
    split_ifs at hb with hstart
    · rcases List.mem_cons.mp hb with rfl | hb
      · exact ⟨Int.mul_pos hstart hbpm, (by decide : (0 : Int) < 60000), .inl rfl⟩
      · obtain ⟨hnum, hden, htones⟩ := hheld b hb
        exact ⟨hnum, hden, .inr htones⟩
    · obtain ⟨hnum, hden, htones⟩ := hheld b hb
      exact ⟨hnum, hden, .inr htones⟩

/-! ## 3. The same chords -/

/-- At its own onset there is only the chord itself. -/
theorem filter_onset (h : chords.Pairwise (·.1 < ·.1)) {c : Int × List Int} (hc : c ∈ chords) :
    chords.filter (·.1 == c.1) = [c] := by
  induction chords with
  | nil => cases hc
  | cons first chords ih =>
    obtain ⟨hfirst, hrest⟩ := List.pairwise_cons.mp h
    rcases List.mem_cons.mp hc with rfl | hc
    · have hnone : chords.filter (·.1 == c.1) = [] := by
        refine List.filter_eq_nil_iff.mpr fun d hd => ?_
        have hlt := hfirst d hd
        simp
        omega
      rw [List.filter_cons, if_pos (beq_self_eq_true c.1), hnone]
    · have hlt := hfirst c hc
      have hne : ¬(first.1 == c.1) = true := by
        simp
        omega
      rw [List.filter_cons, if_neg hne, ih hrest hc]

/-- **Soundings at different times are gathered one by one**: the chords are theirs, with the tones
of each in some order. -/
theorem forall₂_of_gathers {sounding : List (Int × List Int)} (h : Gathers sounding chords)
    (hincreasing : sounding.Pairwise (·.1 < ·.1)) :
    List.Forall₂ (fun s c => c.1 = s.1 ∧ c.2.Perm s.2) sounding chords := by
  have honsets : chords.map (·.1) = sounding.map (·.1) := by
    refine List.Pairwise.eq_of_mem_iff (r := (· < ·)) (List.pairwise_map.mpr h.increasing)
      (List.pairwise_map.mpr hincreasing) fun time => ?_
    rw [List.mem_map, List.mem_map]
    exact h.onsets time
  have hsame : List.Forall₂ (fun s c => c ∈ chords ∧ s ∈ sounding ∧ c.1 = s.1) sounding chords := by
    rw [← List.forall₂_eq_eq_eq, List.forall₂_map_left_iff, List.forall₂_map_right_iff] at honsets
    have hleft := (List.forall₂_and_left _ _).mpr ⟨fun c hc => hc, honsets⟩
    have hboth := (List.forall₂_and_left _ _).mpr ⟨fun s hs => hs, hleft.flip⟩
    exact hboth.imp fun s c hsc => ⟨hsc.2.1, hsc.1, hsc.2.2⟩
  refine hsame.imp fun s c hsc => ?_
  obtain ⟨hc, hs, honset⟩ := hsc
  have htones := h.tones c hc
  rw [honset, filter_onset hincreasing hs] at htones
  exact ⟨honset, by simpa using htones⟩

/-- Chords whose tones have moved are heard where they were. -/
theorem forall₂_heard {chords' : List (Int × List Int)} (bpm interval : Int)
    (h : List.Forall₂ (fun c c' => c'.1 = c.1 ∧ c'.2.Perm (c.2.map (· + interval)))
      chords chords') :
    List.Forall₂ (fun b b' => b'.rate = b.rate ∧ b'.tones.Perm (b.tones.map (· + interval)))
      (heard bpm chords) (heard bpm chords') := by
  have hheld : List.Forall₂
      (fun b b' => b'.rate = b.rate ∧ b'.tones.Perm (b.tones.map (· + interval)))
      (heldToNext bpm chords) (heldToNext bpm chords') := by
    induction h with
    | nil => exact .nil
    | @cons c c' chords chords' hc hchords ih =>
      obtain ⟨honset, hperm⟩ := hc
      cases hchords with
      | nil => exact .cons ⟨rfl, hperm⟩ .nil
      | @cons next next' _ _ hnext hrest =>
        rw [heldToNext_cons, heldToNext_cons, honset, hnext.1]
        exact .cons ⟨rfl, hperm⟩ ih
  cases h with
  | nil => exact .cons ⟨rfl, .refl _⟩ .nil
  | @cons c c' chords chords' hc hchords =>
    rw [heard_cons, heard_cons, hc.1]
    split_ifs
    · exact .cons ⟨rfl, .refl _⟩ hheld
    · exact hheld

/-! ## 4. The document again -/

theorem tidy_document {strokes : List Stroke} (h : TidyMetadata score) :
    (document score strokes).Tidy := by
  obtain ⟨hname, hauthor, htranscriber⟩ := h
  have hpresses := (Json.rereadItems_of_plain _ (plainItems_presses (pressesOf 0 strokes))).1
  rw [← presses_eq] at hpresses
  exact ⟨⟨nodup_documentFields score strokes, hname, hauthor, htranscriber, trivial, trivial,
    trivial, hpresses, trivial⟩, trivial⟩

/-- Of a document that was written only the metadata may be read as others. -/
theorem reread_document (strokes : List Stroke) :
    (document score strokes).reread = document { score with
      name := score.name.reread
      author := score.author.reread
      transcriber := score.transcriber.reread } strokes := by
  have hpresses := (Json.rereadItems_of_plain _ (plainItems_presses (pressesOf 0 strokes))).2
  rw [← presses_eq] at hpresses
  simp only [document, Json.reread, Json.rereadItems, Json.rereadFields, hpresses]

/-- What is read of a written document, whatever its metadata are. -/
theorem read_document {strokes : List Stroke} (hbpm : 0 < score.bpm)
    (hmetadata : TidyMetadata score)
    (hpresses : ∀ p ∈ pressesOf 0 strokes, 0 ≤ p.time ∧ p.key < layout.keyCount) :
    read ((document score strokes).render .compact) = .ok {
      name := score.name.reread.orElse (.string "Unknown")
      author := score.author.reread.orElse (.string [])
      transcriber := score.transcriber.reread.orElse (.string [])
      keyNote := score.keyNote % 12
      bpm := score.bpm
      beats := beats score.bpm 0 [] (chordsOf (pressesOf 0 strokes)) } := by
  rw [read, Json.read_render_tidy (tidy_document hmetadata), reread_document]
  exact ofJson_document_eq hbpm hpresses

/-! ## 5. Where the pitches are -/

/-- The pitches that a beat sounds in a key. -/
def pitchesIn (keyNote : Int) (b : Beat) : List Int := b.tones.map (· + keyNote)

/-- The level can always be taken back, so what was read fits somewhere. -/
theorem fits_of_isRead (h : IsRead score chords) :
    Placement.Fits score layout (-score.keyNote) := by
  intro b hb tone htone
  rw [h.beats] at hb
  obtain ⟨-, -, hrest | ⟨c, hc, htones⟩⟩ := mem_heard h.bpm h.areRead.increasing b hb
  · rw [hrest] at htone
    cases htone
  · rw [htones] at htone
    obtain ⟨key, hkey, hpitch⟩ := h.areRead.onKeys c hc tone htone
    exact ⟨key, hkey, by omega⟩

/-- What was read is written, and what is heard of it are its chords, moved. -/
theorem exists_strokes_of_isRead (h : IsRead score chords)
    (hshift : Placement.transposition score layout = .ok shift) :
    ∃ strokes chords', write score = .ok ((document score strokes).render .compact)
      ∧ (∀ p ∈ pressesOf 0 strokes, 0 ≤ p.time ∧ p.key < layout.keyCount)
      ∧ beats score.bpm 0 [] (chordsOf (pressesOf 0 strokes)) = heard score.bpm chords'
      ∧ List.Forall₂ (fun c c' => c'.1 = c.1
        ∧ c'.2.Perm (c.2.map (· + (score.keyNote + shift)))) chords chords' := by
  have hheard := mem_heard h.bpm h.areRead.increasing
  rw [← h.beats] at hheard
  have hrates : ∀ b ∈ score.beats, 0 ≤ b.rate.num ∧ 0 < b.rate.den := by
    intro b hb
    obtain ⟨hnum, hden, -⟩ := hheard b hb
    exact ⟨hnum.le, hden⟩
  obtain ⟨strokes, hplace, hstrokes, hdelay, hpresses⟩ := exists_strokes h.bpm hrates hshift
  have hgathers := gathers_chordsOf hstrokes hdelay 0
  rw [h.beats, sounded_heard h.bpm h.areRead] at hgathers
  have hmoved := forall₂_of_gathers hgathers (List.pairwise_map.mpr h.areRead.increasing)
  rw [List.forall₂_map_left_iff] at hmoved
  have hmoved : List.Forall₂ (fun c c' => c'.1 = c.1
      ∧ c'.2.Perm (c.2.map (· + (score.keyNote + shift)))) chords
      (chordsOf (pressesOf 0 strokes)) := by
    refine hmoved.imp fun c c' hc => ⟨hc.1, ?_⟩
    have htones : (chordAtPitch score.keyNote shift c).2
        = c.2.map (· + (score.keyNote + shift)) := by
      simp only [chordAtPitch, Int.add_assoc]
    rw [← htones]
    exact hc.2
  have hclock : ∀ c ∈ chordsOf (pressesOf 0 strokes), 0 ≤ c.1 := by
    intro c' hc'
    obtain ⟨c, hc, honset, -⟩ := exists_related_of_mem hmoved hc'
    rw [honset]
    exact h.areRead.onset_nonneg c hc
  refine ⟨strokes, chordsOf (pressesOf 0 strokes), ?_, hpresses,
    beats_eq_heard hgathers.increasing hclock, hmoved⟩
  rw [write, hplace]
  rfl

/-- Numbers that move by an interval are others, unless it is none. -/
theorem map_add_perm_iff {xs : List Int} {interval : Int} :
    (xs.map (· + interval)).Perm xs ↔ xs = [] ∨ interval = 0 := by
  constructor
  · intro h
    have hsum : (xs.map (· + interval)).sum = xs.sum + xs.length * interval := by
      simp [List.sum_map_add]
    have hzero : (xs.length : Int) * interval = 0 := by
      have hsame := h.sum_eq
      omega
    rcases Int.mul_eq_zero.mp hzero with hlength | hinterval
    · exact .inl (List.eq_nil_of_length_eq_zero (by omega))
    · exact .inr hinterval
  · rintro (rfl | rfl)
    · exact .refl _
    · simp

/-- Beats that move keep their pitches only if nothing sounds or nothing moves. -/
theorem forall₂_kept_iff {keyNote interval : Int} {bs bs' : List Beat}
    (h : List.Forall₂ (fun b b' => (pitchesIn keyNote b').Perm
      ((pitchesIn keyNote b).map (· + interval))) bs bs') :
    List.Forall₂ (fun b b' => (pitchesIn keyNote b').Perm (pitchesIn keyNote b)) bs bs'
      ↔ (∀ b ∈ bs, b.tones = []) ∨ interval = 0 := by
  induction h with
  | nil => simp
  | @cons b b' bs bs' hb _ ih =>
    have hfirst : (pitchesIn keyNote b').Perm (pitchesIn keyNote b)
        ↔ b.tones = [] ∨ interval = 0 := by
      rw [hb.congr_left, map_add_perm_iff, pitchesIn, List.map_eq_nil_iff]
    rw [List.forall₂_cons, hfirst, ih, List.forall_mem_cons, and_or_right]

/-- Tones that move in a key move its pitches. -/
theorem perm_pitchesIn (keyNote : Int) {interval : Int} {b b' : Beat}
    (h : b'.tones.Perm (b.tones.map (· + interval))) :
    (pitchesIn keyNote b').Perm ((pitchesIn keyNote b).map (· + interval)) := by
  have hswap : (b.tones.map (· + interval)).map (· + keyNote)
      = (b.tones.map (· + keyNote)).map (· + interval) := by
    simp only [List.map_map, Function.comp_def, Int.add_right_comm]
  rw [pitchesIn, pitchesIn, ← hswap]
  exact h.map _

/-- **What was read is written and read again with every beat where it was, but its pitches have
moved by its level and by the transposition.** So they are kept exactly where nothing sounds or
where the transposition takes back the level; a level of zero takes none. -/
theorem pitches_rewritten {text : Text} {score : Score} (h : read text = .ok score) :
    ∃ shift again score', Placement.transposition score layout = .ok shift
      ∧ write score = .ok again ∧ read again = .ok score'
      ∧ score'.keyNote = score.keyNote ∧ score'.bpm = score.bpm
      ∧ List.Forall₂ (fun b b' => b'.rate = b.rate
        ∧ (pitchesIn score'.keyNote b').Perm
          ((pitchesIn score.keyNote b).map (· + (score.keyNote + shift)))) score.beats score'.beats
      ∧ (List.Forall₂ (fun b b' => (pitchesIn score'.keyNote b').Perm (pitchesIn score.keyNote b))
          score.beats score'.beats ↔ Placement.Silent score ∨ shift = -score.keyNote)
      ∧ (score.keyNote = 0 → shift = 0) := by
  obtain ⟨chords, hread⟩ := exists_chords_of_read h
  have hfits := fits_of_isRead hread
  obtain ⟨shift, hshift⟩ := Placement.exists_transposition (by decide) hfits
  obtain ⟨strokes, chords', hwrite, hpresses, hbeats, hmoved⟩ :=
    exists_strokes_of_isRead hread hshift
  have hlevel : score.keyNote % 12 = score.keyNote := by
    have hrange := hread.level
    omega
  have hall := forall₂_heard score.bpm _ hmoved
  rw [← hread.beats, ← hbeats] at hall
  have hpitches := hall.imp fun b b' hb =>
    And.intro hb.1 (perm_pitchesIn score.keyNote hb.2)
  have hkept := forall₂_kept_iff (hpitches.imp fun b b' hb => hb.2)
  have hinterval : score.keyNote + shift = 0 ↔ shift = -score.keyNote := by omega
  have hagain := read_document hread.bpm hread.metadata hpresses
  rw [hlevel] at hagain
  refine ⟨shift, _, _, hshift, hwrite, hagain, rfl, rfl, hpitches, ?_, ?_⟩
  · rw [← hinterval]
    exact hkept
  · intro hzero
    rw [hzero, Int.neg_zero] at hfits
    rw [Placement.transposition_eq_zero (by decide) hfits] at hshift
    exact (Except.ok.inj hshift).symm

/-- A sheet of level five with one press, of the first key. -/
def levelFive : Text :=
  ("[\x7b\"name\":\"x\",\"author\":\"\",\"transcribedBy\":\"\",\"bitsPerPage\":16," : Text)
    ++ ("\"pitchLevel\":5,\"bpm\":60," : Text)
    ++ ("\"songNotes\":[\x7b\"time\":0,\"key\":\"1Key0\"\x7d]\x7d]" : Text)

/-- The score of that sheet. -/
def scoreOfLevelFive : Score :=
  { name := .string "x", keyNote := 5, bpm := 60, beats := [{ rate := .ofInt 4, tones := [0] }] }

theorem read_levelFive : read levelFive = .ok scoreOfLevelFive := by decide +kernel

/-- The pitch of the level is that of a key, so nothing is transposed and the level counts twice. -/
theorem pitches_rewritten_sample : read levelFive = .ok scoreOfLevelFive
    ∧ ∃ shift again score', Placement.transposition scoreOfLevelFive layout = .ok shift
      ∧ write scoreOfLevelFive = .ok again ∧ read again = .ok score'
      ∧ score'.keyNote = 5 ∧ score'.bpm = 60
      ∧ List.Forall₂ (fun b b' => b'.rate = b.rate
        ∧ (pitchesIn score'.keyNote b').Perm ((pitchesIn 5 b).map (· + (5 + shift))))
          scoreOfLevelFive.beats score'.beats
      ∧ (List.Forall₂ (fun b b' => (pitchesIn score'.keyNote b').Perm (pitchesIn 5 b))
          scoreOfLevelFive.beats score'.beats ↔ Placement.Silent scoreOfLevelFive ∨ shift = -5)
      ∧ ((5 : Int) = 0 → shift = 0) :=
  ⟨read_levelFive, pitches_rewritten read_levelFive⟩

/-- Not every sheet keeps its pitches: the first key of level five comes back as pitch ten. -/
theorem pitches_not_kept : ¬∀ (text : Text) (score : Score), read text = .ok score →
    ∃ again score', write score = .ok again ∧ read again = .ok score'
      ∧ List.Forall₂ (fun b b' => (pitchesIn score'.keyNote b').Perm (pitchesIn score.keyNote b))
        score.beats score'.beats := by
  intro h
  obtain ⟨again, score', hwrite, hagain, hkept⟩ := h levelFive scoreOfLevelFive read_levelFive
  have hwritten : (document scoreOfLevelFive [⟨[3], 4000⟩]).render .compact = again := by
    have hplace : Placement.place scoreOfLevelFive layout = .ok ⟨0, [⟨[3], 4000⟩]⟩ := by decide
    rw [write, hplace] at hwrite
    exact Except.ok.inj hwrite
  have hmetadata : TidyMetadata scoreOfLevelFive := ⟨trivial, trivial, trivial⟩
  rw [← hwritten, read_document (by decide) hmetadata (by decide)] at hagain
  have hbeats : score'.beats = [{ rate := .ofInt 4, tones := [5] }] := by
    rw [← Except.ok.inj hagain]
    decide
  have hlevel : score'.keyNote = 5 := by
    rw [← Except.ok.inj hagain]
    decide
  rw [hbeats, hlevel] at hkept
  obtain ⟨hpitches, -⟩ := List.forall₂_cons.mp hkept
  exact absurd hpitches (by decide)

end SongSheet.EventSheet
