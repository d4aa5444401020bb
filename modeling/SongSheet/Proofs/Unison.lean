import SongSheet.Proofs.EventSheet.Notes
import SongSheet.Proofs.Reading

/-!
# Chords that sound a key twice

Where a chord is spelled, as notes side by side, a tone that comes twice sounds once, and so it does
where presses of one moment are gathered from a timeline. An event sheet has no chords, only notes,
and keeps all of them: two layers may press one key at one time. So **the tones of a beat are
different in every format but that of event sheets, and there exactly when no two notes are the
same** (`Format.tones_apart`).
-/

set_option autoImplicit false

namespace SongSheet

/-! ## 1. Spelled chords -/

theorem LetterSheet.nodup_of_read {fileName : Option Text} {t : Text} {score : Score}
    (h : read fileName t = .ok score) : ∀ b ∈ score.beats, b.tones.Nodup := by
  obtain ⟨-, -, keyLines, ms, -, hbeats⟩ := exists_gather_of_read h
  intro b hb
  rw [hbeats] at hb
  obtain ⟨-, rfl⟩ | ⟨c, -, dots, rfl⟩ := mem_beats hb
  · exact List.nodup_nil
  · exact nodup_eraseDups c.tones

theorem CipherSheet.nodup_of_read {fileName : Option Text} {t : Text} {score : Score}
    (h : read fileName t = .ok score) : ∀ b ∈ score.beats, b.tones.Nodup := by
  rw [read] at h
  split at h
  case h_1 => cases h
  case h_2 m _ =>
    obtain ⟨bpm, -, h⟩ := bind_eq_ok h
    obtain ⟨bs, hbeats, h⟩ := bind_eq_ok h
    cases h
    intro b hb
    obtain ⟨c, -, hc⟩ := exists_related_of_mem (mapM_eq_ok_iff.mp hbeats) hb
    obtain ⟨rate, -, hc⟩ := bind_eq_ok hc
    obtain ⟨tones, -, hc⟩ := bind_eq_ok hc
    cases hc
    exact nodup_eraseDups _

theorem Timeline.nodup_of_read {name content : Text} {version : Int} {score : Score}
    (h : read name content version = .ok score) : ∀ b ∈ score.beats, b.tones.Nodup := by
  cases version_of_read h
  obtain ⟨-, m, ms, unit, hne, -, -, -, -, -, -, rfl⟩ := exists_moments_of_read h
  intro b hb
  obtain ⟨s, -, rfl⟩ := List.mem_map.mp hb
  exact nodup_eraseDups s.keys

/-! ## 2. Notes -/

namespace EventSheet

/-- What is so of no tones at all is so of all beats that are heard if it is so of all chords. -/
theorem forall_heard_iff {P : List Int → Prop} (hrest : P []) (bpm : Int)
    (chords : List (Int × List Int)) :
    (∀ b ∈ heard bpm chords, P b.tones) ↔ ∀ c ∈ chords, P c.2 := by
  have hheld : (∀ b ∈ heldToNext bpm chords, P b.tones) ↔ ∀ c ∈ chords, P c.2 := by
    have htones : (∀ tones ∈ (heldToNext bpm chords).map (·.tones), P tones)
        ↔ ∀ tones ∈ chords.map (·.2), P tones := by
      rw [map_tones_heldToNext]
    rwa [List.forall_mem_map, List.forall_mem_map] at htones
  cases chords with
  | nil =>
    refine ⟨fun _ => nofun, fun _ b hb => ?_⟩
    rw [List.mem_singleton.mp hb]
    exact hrest
  | cons c chords =>
    rw [heard_cons]
    split
    · rw [List.forall_mem_cons, hheld, and_iff_right hrest]
    · exact hheld

theorem ofDegree_injective {a b : Int} (h : Pitch.ofDegree a = Pitch.ofDegree b) : a = b := by
  have hdegree := Pitch.degree_ofDegree a
  rw [h, Pitch.degree_ofDegree] at hdegree
  exact (Except.ok.inj hdegree).symm

/-- The tones at a time are different when the notes at that time are. -/
theorem nodup_tonesOfNotes {ns : List (Int × Nat)} {time : Int} :
    (tonesOfNotes ns time).Nodup ↔ (ns.filter (·.1 == time)).Nodup := by
  refine ⟨List.Nodup.of_map _, fun h => ?_⟩
  refine h.map_on fun n hn n' hn' htone => ?_
  have htime := (List.mem_filter.mp hn).2
  have htime' := (List.mem_filter.mp hn').2
  simp only [beq_iff_eq] at htime htime'
  have hkey := ofDegree_injective htone
  exact Prod.ext (htime.trans htime'.symm) (Int.ofNat_inj.mp hkey)

/-- Notes are different when those at any one time are. -/
theorem nodup_notes_iff {ns : List (Int × Nat)} :
    ns.Nodup ↔ ∀ c ∈ chordsOfNotes ns, c.2.Nodup := by
  constructor
  · intro h c hc
    obtain ⟨time, -, rfl⟩ := List.mem_map.mp hc
    exact nodup_tonesOfNotes.mpr (h.filter _)
  · intro h
    refine List.nodup_iff_count_le_one.mpr fun n => ?_
    by_cases hn : n ∈ ns
    · have hchord : (n.1, tonesOfNotes ns n.1) ∈ chordsOfNotes ns :=
        List.mem_map_of_mem (mem_moments.mpr (List.mem_map_of_mem hn))
      have hown := nodup_tonesOfNotes.mp (h _ hchord)
      rw [← List.count_filter (p := (·.1 == n.1)) (beq_self_eq_true n.1)]
      exact List.nodup_iff_count_le_one.mp hown n
    · rw [List.count_eq_zero_of_not_mem hn]
      exact Nat.zero_le 1

/-- **An event sheet is heard with a key sounding twice exactly when it has a note twice.** -/
theorem nodup_iff_of_read {t : Text} {score : Score} (h : read t = .ok score) :
    ∃ ns, notes t = .ok ns ∧ ((∀ b ∈ score.beats, b.tones.Nodup) ↔ ns.Nodup) := by
  obtain ⟨ns, hns, -, hbeats⟩ := beats_of_read h
  refine ⟨ns, hns, ?_⟩
  rw [hbeats, forall_heard_iff List.nodup_nil, nodup_notes_iff]

end EventSheet

/-! ## 3. All formats -/

namespace Format

/-- **No chord that was read sounds a key twice**, unless it comes from an event sheet that has a
note twice. -/
theorem tones_apart {f : Format} {fileName : Option Text} {t : Text} {score : Score}
    (h : f.reader fileName t = .ok score) :
    (f ≠ eventSheet → ∀ b ∈ score.beats, b.tones.Nodup)
      ∧ (f = eventSheet → ∃ ns, EventSheet.notes t = .ok ns
        ∧ ((∀ b ∈ score.beats, b.tones.Nodup) ↔ ns.Nodup)) := by
  cases f with
  | eventSheet => exact ⟨fun hf => absurd rfl hf,
      fun _ => EventSheet.nodup_iff_of_read (ok_of_mapError h)⟩
  | letterSheet => exact ⟨fun _ => LetterSheet.nodup_of_read (ok_of_mapError h), nofun⟩
  | cipherSheet => exact ⟨fun _ => CipherSheet.nodup_of_read (ok_of_mapError h), nofun⟩
  | script =>
    obtain ⟨name, content, hread⟩ := Script.exists_timeline_of_read h
    exact ⟨fun _ => Timeline.nodup_of_read hread, nofun⟩

/-- One key, pressed in both layers at once. -/
def unison : Text :=
  ("[\x7b\"name\":\"u\",\"pitchLevel\":0,\"bpm\":60,\"songNotes\":[" : Text)
    ++ ("\x7b\"time\":0,\"key\":\"1Key0\"\x7d,\x7b\"time\":0,\"key\":\"2Key0\"\x7d]\x7d]" : Text)

/-- It is read as one chord of two tones. -/
def scoreOfUnison : Score where
  name := .string "u"
  bpm := 60
  beats := [⟨Rate.ofInt 4, [0, 0]⟩]

theorem reader_unison : eventSheet.reader none unison = .ok scoreOfUnison := by
  decide +kernel

/-- The octave of the tonic by two of its names, as it is read. -/
def scoreOfOctave : Score where
  name := .string []
  bpm := 60
  beats := [⟨Rate.ofInt 1, [12, 0]⟩]

theorem reader_octave : cipherSheet.reader none "[1=C,4/4,60]1+&1&7#" = .ok scoreOfOctave := by
  decide +kernel

/-- A key that is spelled twice, and a key that is pressed twice. -/
theorem tones_apart_samples :
    (cipherSheet.reader none "[1=C,4/4,60]1+&1&7#" = .ok scoreOfOctave
        ∧ ∀ b ∈ scoreOfOctave.beats, b.tones.Nodup)
      ∧ eventSheet.reader none unison = .ok scoreOfUnison
      ∧ ∃ ns, EventSheet.notes unison = .ok ns
        ∧ ((∀ b ∈ scoreOfUnison.beats, b.tones.Nodup) ↔ ns.Nodup) :=
  ⟨⟨reader_octave, (tones_apart reader_octave).1 (by decide)⟩, reader_unison,
    (tones_apart reader_unison).2 rfl⟩

/-- **Not every chord that was read sounds its keys once.** -/
theorem tones_not_apart : ¬∀ (f : Format) (fileName : Option Text) (t : Text) (score : Score),
    f.reader fileName t = .ok score → ∀ b ∈ score.beats, b.tones.Nodup := by
  intro h
  have htones := h eventSheet none unison scoreOfUnison reader_unison
    ⟨Rate.ofInt 4, [0, 0]⟩ (List.mem_singleton_self _)
  exact absurd htones (by decide)

end Format

end SongSheet
