import Mathlib.Algebra.BigOperators.Group.List.Basic
import Mathlib.Algebra.Order.Ring.Unbundled.Rat
import SongSheet.Midi.Track
import SongSheet.Proofs.Arrangement
import SongSheet.Proofs.Rate
import SongSheet.Proofs.Rounding
import SongSheet.Proofs.Traversal

/-!
# The notes of a track

What a track plays is a list of notes: from one tick to another, at a pitch. `Exporter.notes` says
which these have to be, by the exact positions of the beats alone. **A track plays those notes and
no others** (`Exporter.track_plays`): its clock never runs backwards, and at each pitch its messages
begin and end in turns, the `k`-th pair at the ends of the `k`-th note.

The messages are sorted over all pitches at once. Sorting is stable, so those of one pitch are
sorted among themselves (`filter_sortBy`), and there they were in order before: the notes of one
pitch do not overlap, and where one ends as the next begins, the end comes first.
-/

set_option autoImplicit false

namespace SongSheet.Midi

/-! ## 1. What a track has to play -/

/-- A pitch that sounds from a tick to another. -/
structure Note where
  start : Int
  stop : Int
  pitch : Int
  deriving DecidableEq, Repr

/-- The notes of tones that begin and end together, if there is a tick between the two. -/
def chord (tonic start stop : Int) (tones : List Int) : List Note :=
  if start < stop then tones.map fun tone => ⟨start, stop, tonic + tone⟩ else []

namespace Exporter

/-- The tick at which a beat begins: that of the exact sum of the rates before it. -/
def onset (e : Exporter) (beats : List Beat) (k : Nat) : Int :=
  e.tick ((beats.take k).map (·.rate.value)).sum

/-- The notes of a score: those of every beat, from its own tick to that of the next. -/
def notes (e : Exporter) (score : Score) : List Note :=
  score.beats.zipIdx.flatMap fun (beat, k) =>
    chord (e.basePitch + score.keyNote) (e.onset score.beats k) (e.onset score.beats (k + 1))
      beat.tones

end Exporter

/-! ## 2. What a track plays -/

/-- The pitch of a message that begins or ends a tone. -/
def Message.pitch? : Message → Option Int
  | .noteOn pitch _ | .noteOff pitch => some pitch
  | .trackName _ | .tempo _ => none

@[simp] theorem Message.pitch?_noteOn (pitch velocity : Nat) :
    (noteOn pitch velocity).pitch? = some (pitch : Int) := rfl

@[simp] theorem Message.pitch?_noteOff (pitch : Nat) :
    (noteOff pitch).pitch? = some (pitch : Int) := rfl

/-- The messages of a track with the ticks at which they come, from a tick on. -/
def clocked (now : Int) : List Event → List (Int × Message)
  | [] => []
  | event :: rest => (now + event.delta, event.message) :: clocked (now + event.delta) rest

/-- The messages of a track that begin or end a pitch. -/
def messagesAt (pitch : Int) (track : List Event) : List (Int × Message) :=
  (clocked 0 track).filter (·.2.pitch? = some pitch)

/-- The ticks of messages that begin and end in turns, two by two; nothing for other messages. -/
def turns? : List (Int × Message) → Option (List (Int × Int))
  | [] => some []
  | (start, .noteOn ..) :: (stop, .noteOff ..) :: rest => (turns? rest).map ((start, stop) :: ·)
  | _ => none

/-- The messages of a note. -/
def Note.messages (velocity : Int) (n : Note) : List (Int × Message) :=
  [(n.start, .noteOn n.pitch.toNat velocity.toNat), (n.stop, .noteOff n.pitch.toNat)]

theorem turns?_messages (velocity : Int) (ns : List Note) :
    turns? (ns.flatMap (Note.messages velocity)) = some (ns.map fun n => (n.start, n.stop)) := by
  induction ns with
  | nil => rfl
  | cons n ns ih =>
    rw [List.flatMap_cons, Note.messages, List.cons_append, List.cons_append, List.nil_append,
      turns?, ih]
    rfl

/-- Of the messages of notes, those at a pitch are the messages of the notes at that pitch. -/
theorem filter_messages (velocity : Int) (pitch : Int) {ns : List Note}
    (h : ∀ n ∈ ns, 0 ≤ n.pitch) :
    (ns.flatMap (Note.messages velocity)).filter (·.2.pitch? = some pitch)
      = (ns.filter (·.pitch = pitch)).flatMap (Note.messages velocity) := by
  induction ns with
  | nil => rfl
  | cons n ns ih =>
    have hpitch : ((n.pitch.toNat : Nat) : Int) = n.pitch :=
      Int.toNat_of_nonneg (h n List.mem_cons_self)
    have hown : (Note.messages velocity n).filter (·.2.pitch? = some pitch)
        = if n.pitch = pitch then Note.messages velocity n else [] := by
      by_cases hn : n.pitch = pitch
      · rw [if_pos hn]
        exact List.filter_eq_self.mpr (by simp [Note.messages, hpitch, ← hn])
      · rw [if_neg hn]
        exact List.filter_eq_nil_iff.mpr (by simp [Note.messages, hpitch, hn])
    rw [List.flatMap_cons, List.filter_append, hown,
      ih fun m hm => h m (List.mem_cons_of_mem _ hm), List.filter_cons]
    by_cases hn : n.pitch = pitch
    · rw [if_pos hn, if_pos (decide_eq_true hn), List.flatMap_cons]
    · rw [if_neg hn, if_neg (by simpa using hn), List.nil_append]

/-! ## 3. The messages of a score -/

variable {e : Exporter}

namespace Exporter

theorem toneMessages_eq_ok {keyNote start stop tone : Int} {own : List (Int × Message)}
    (h : e.toneMessages keyNote start stop tone = .ok own) :
    0 ≤ e.basePitch + keyNote + tone
      ∧ own = Note.messages e.velocity ⟨start, stop, e.basePitch + keyNote + tone⟩ := by
  rw [toneMessages] at h
  split at h
  case isTrue => cases h
  case isFalse hrange =>
    split at h
    case isTrue => cases h
    case isFalse =>
      exact ⟨by omega, (Except.ok.inj h).symm⟩

/-- The notes of beats that follow each other from a position on. -/
def notesFrom (e : Exporter) (keyNote : Int) (position : Rat) : List Beat → List Note
  | [] => []
  | beat :: rest =>
    let after := position + beat.rate.value
    chord (e.basePitch + keyNote) (e.tick position) (e.tick after) beat.tones
      ++ notesFrom e keyNote after rest

theorem notes_eq (e : Exporter) (score : Score) :
    e.notes score = e.notesFrom score.keyNote 0 score.beats := by
  -- The beats before a position are in front of those from it on.
  have hgo : ∀ rest before : List Beat,
      ((rest.zipIdx before.length).flatMap fun (beat, k) =>
        chord (e.basePitch + score.keyNote) (e.onset (before ++ rest) k)
          (e.onset (before ++ rest) (k + 1)) beat.tones)
        = e.notesFrom score.keyNote (before.map (·.rate.value)).sum rest := by
    intro rest
    induction rest with
    | nil => exact fun before => rfl
    | cons beat rest ih =>
      intro before
      have hstart : e.onset (before ++ beat :: rest) before.length
          = e.tick (before.map (·.rate.value)).sum := by
        rw [onset, List.take_left]
      have hafter : ((before ++ [beat]).map (·.rate.value)).sum
          = (before.map (·.rate.value)).sum + beat.rate.value := by
        rw [List.map_append, List.sum_append, List.map_singleton, List.sum_singleton]
      have hstop : e.onset (before ++ beat :: rest) (before.length + 1)
          = e.tick ((before.map (·.rate.value)).sum + beat.rate.value) := by
        have hlength : before.length + 1 = (before ++ [beat]).length := by simp
        rw [onset, List.append_cons, hlength, List.take_left, hafter]
      have hrest := ih (before ++ [beat])
      rw [hafter, ← List.append_cons, List.length_append, List.length_singleton] at hrest
      rw [List.zipIdx_cons, List.flatMap_cons, hrest, notesFrom, ← hstart, ← hstop]
  exact hgo score.beats []

theorem messagesFrom_cons_eq_ok {keyNote : Int} {position : Rat} {beat : Beat} {rest : List Beat}
    {messages : List (Int × Message)}
    (h : e.messagesFrom keyNote position (beat :: rest) = .ok messages) :
    ∃ own others,
      (if e.tick position < e.tick (position + beat.rate.value) then
        beat.tones.mapM (e.toneMessages keyNote (e.tick position)
          (e.tick (position + beat.rate.value))) = .ok own
      else own = [])
      ∧ e.messagesFrom keyNote (position + beat.rate.value) rest = .ok others
      ∧ messages = own.flatten ++ others := by
  rw [messagesFrom] at h
  split at h
  case isTrue hshort =>
    obtain ⟨own, hown, h⟩ := bind_eq_ok h
    obtain ⟨others, hothers, h⟩ := bind_eq_ok h
    refine ⟨own, others, ?_, hothers, (Except.ok.inj h).symm⟩
    rw [if_neg (not_lt.mpr hshort)]
    exact (Except.ok.inj hown).symm
  case isFalse hlong =>
    obtain ⟨own, hown, h⟩ := bind_eq_ok h
    obtain ⟨others, hothers, h⟩ := bind_eq_ok h
    refine ⟨own, others, ?_, hothers, (Except.ok.inj h).symm⟩
    rw [if_pos (not_le.mp hlong)]
    exact hown

/-- **The messages of beats are those of their notes**, in the order of the notes. -/
theorem messagesFrom_eq_ok {keyNote : Int} {beats : List Beat} {position : Rat}
    {messages : List (Int × Message)} (h : e.messagesFrom keyNote position beats = .ok messages) :
    (∀ n ∈ e.notesFrom keyNote position beats, 0 ≤ n.pitch)
      ∧ messages = (e.notesFrom keyNote position beats).flatMap (Note.messages e.velocity) := by
  induction beats generalizing position messages with
  | nil => exact ⟨nofun, (Except.ok.inj h).symm⟩
  | cons beat rest ih =>
    obtain ⟨own, others, hown, hothers, rfl⟩ := messagesFrom_cons_eq_ok h
    obtain ⟨hpitches, hmessages⟩ := ih hothers
    obtain ⟨hchord, hflatten⟩ : (∀ n ∈ chord (e.basePitch + keyNote) (e.tick position)
          (e.tick (position + beat.rate.value)) beat.tones, 0 ≤ n.pitch)
        ∧ own.flatten = (chord (e.basePitch + keyNote) (e.tick position)
          (e.tick (position + beat.rate.value)) beat.tones).flatMap
            (Note.messages e.velocity) := by
      rw [chord]
      split at hown
      case isTrue hlong =>
        rw [if_pos hlong]
        refine ⟨?_, ?_⟩
        · intro n hn
          obtain ⟨tone, htone, rfl⟩ := List.mem_map.mp hn
          obtain ⟨messages, hmessages⟩ := exists_mapM_iff.mp ⟨own, hown⟩ tone htone
          exact (toneMessages_eq_ok hmessages).1
        · rw [eq_map_of_mapM (fun tone _ _ htone => (toneMessages_eq_ok htone).2) hown,
            List.flatMap_map]
          rfl
      case isFalse hshort =>
        rw [if_neg hshort, hown]
        exact ⟨nofun, rfl⟩
    rw [notesFrom]
    refine ⟨?_, ?_⟩
    · intro n hn
      rcases List.mem_append.mp hn with hn | hn
      · exact hchord n hn
      · exact hpitches n hn
    · rw [hflatten, hmessages, List.flatMap_append]

/-! ## 4. Notes of one pitch do not overlap -/

theorem roundsTo_tick (e : Exporter) (position : Rat) :
    RoundsTo (position * e.ticksPerBeat) (e.tick position) :=
  roundsTo_roundHalfEven _

theorem tick_zero (e : Exporter) : e.tick 0 = 0 := by
  have hzero := roundsTo_tick e 0
  rw [zero_mul] at hzero
  exact hzero.unique (RoundsTo.ofInt 0)

theorem tick_mono (hticks : 0 < e.ticksPerBeat) {p q : Rat} (h : p ≤ q) : e.tick p ≤ e.tick q := by
  have hpos : (0 : Rat) ≤ e.ticksPerBeat := by exact_mod_cast hticks.le
  exact (roundsTo_tick e p).mono (roundsTo_tick e q) (mul_le_mul_of_nonneg_right h hpos)

/-- Notes come after the position they are counted from. -/
theorem start_of_mem_notesFrom (hticks : 0 < e.ticksPerBeat) {keyNote : Int} {beats : List Beat}
    {position : Rat} (hrates : ∀ b ∈ beats, 0 ≤ b.rate.value) :
    ∀ n ∈ e.notesFrom keyNote position beats, e.tick position ≤ n.start ∧ n.start < n.stop := by
  induction beats generalizing position with
  | nil => exact nofun
  | cons beat rest ih =>
    intro n hn
    rw [notesFrom] at hn
    rcases List.mem_append.mp hn with hn | hn
    · rw [chord] at hn
      split at hn
      case isTrue hlong =>
        obtain ⟨tone, -, rfl⟩ := List.mem_map.mp hn
        exact ⟨le_rfl, hlong⟩
      case isFalse => cases hn
    · have hafter : e.tick position ≤ e.tick (position + beat.rate.value) :=
        tick_mono hticks (le_add_of_nonneg_right (hrates beat List.mem_cons_self))
      obtain ⟨hstart, hlong⟩ := ih (fun b hb => hrates b (List.mem_cons_of_mem _ hb)) n hn
      exact ⟨hafter.trans hstart, hlong⟩

/-- **A note ends before the next one of its pitch begins**: two of one beat differ in pitch, and
two of different beats have the beginning of the later beat between them. -/
theorem pairwise_notesFrom (hticks : 0 < e.ticksPerBeat) {keyNote : Int} {beats : List Beat}
    {position : Rat} (hrates : ∀ b ∈ beats, 0 ≤ b.rate.value)
    (htones : ∀ b ∈ beats, b.tones.Nodup) :
    (e.notesFrom keyNote position beats).Pairwise fun m n =>
      m.pitch = n.pitch → m.stop ≤ n.start := by
  induction beats generalizing position with
  | nil => exact List.Pairwise.nil
  | cons beat rest ih =>
    have hrest : ∀ b ∈ rest, 0 ≤ b.rate.value := fun b hb => hrates b (List.mem_cons_of_mem _ hb)
    rw [notesFrom]
    refine List.pairwise_append.mpr
      ⟨?_, ih hrest fun b hb => htones b (List.mem_cons_of_mem _ hb), ?_⟩
    · rw [chord]
      split
      case isTrue =>
        refine List.pairwise_map.mpr ((htones beat List.mem_cons_self).imp ?_)
        intro tone tone' hne hpitch
        exact absurd (Int.add_left_cancel hpitch) hne
      case isFalse => exact List.Pairwise.nil
    · intro m hm n hn _
      rw [chord] at hm
      split at hm
      case isTrue =>
        obtain ⟨tone, -, rfl⟩ := List.mem_map.mp hm
        exact (start_of_mem_notesFrom hticks hrest n hn).1
      case isFalse => cases hm

/-! ## 5. Sorted messages -/

theorem precedes_iff {a b : Int × Message} :
    precedes a b = true ↔ a.1 < b.1 ∨ a.1 = b.1 ∧ (begins a.2 = true → begins b.2 = true) := by
  cases ha : begins a.2 <;> simp [precedes, ha]

theorem precedes_total (a b : Int × Message) : precedes a b = true ∨ precedes b a = true := by
  rw [precedes_iff, precedes_iff]
  rcases lt_trichotomy a.1 b.1 with hlt | heq | hgt
  · exact .inl (.inl hlt)
  · by_cases hb : begins b.2 = true
    · exact .inl (.inr ⟨heq, fun _ => hb⟩)
    · exact .inr (.inr ⟨heq.symm, fun h => absurd h hb⟩)
  · exact .inr (.inl hgt)

theorem precedes_trans (a b c : Int × Message) (hab : precedes a b = true)
    (hbc : precedes b c = true) : precedes a c = true := by
  rw [precedes_iff] at hab hbc ⊢
  rcases hab with hab | ⟨hab, hends⟩
  · rcases hbc with hbc | ⟨hbc, -⟩
    · exact .inl (hab.trans hbc)
    · exact .inl (hbc ▸ hab)
  · rcases hbc with hbc | ⟨hbc, hends'⟩
    · exact .inl (hab ▸ hbc)
    · exact .inr ⟨hab.trans hbc, hends' ∘ hends⟩

/-- The messages of notes that follow each other are in order. -/
theorem pairwise_messages (velocity : Int) {ns : List Note} (hlong : ∀ n ∈ ns, n.start < n.stop)
    (hns : ns.Pairwise fun m n => m.stop ≤ n.start) :
    (ns.flatMap (Note.messages velocity)).Pairwise fun a b => precedes a b = true := by
  refine List.pairwise_flatMap.mpr ⟨?_, ?_⟩
  · intro n hn
    refine List.pairwise_pair.mpr (precedes_iff.mpr (.inl ?_))
    exact hlong n hn
  · refine hns.imp_of_mem ?_
    intro m n hm hn hbefore a ha b hb
    have hm' := hlong m hm
    have hn' := hlong n hn
    simp only [Note.messages, List.mem_cons, List.not_mem_nil, or_false] at ha hb
    rw [precedes_iff]
    rcases ha with rfl | rfl
    · rcases hb with rfl | rfl
      · exact .inl (by simp only; omega)
      · exact .inl (by simp only; omega)
    · rcases hb with rfl | rfl
      · -- The one case of equal ticks: the end of a note and the beginning of the next.
        rcases hbefore.lt_or_eq with hlt | heq
        · exact .inl hlt
        · exact .inr ⟨heq, nofun⟩
      · exact .inl (by simp only; omega)

/-! ## 6. Delta times -/

theorem clocked_spaced (now : Int) (messages : List (Int × Message)) :
    clocked now (spaced now messages) = messages := by
  induction messages generalizing now with
  | nil => rfl
  | cons first rest ih =>
    obtain ⟨tick, message⟩ := first
    have htick : now + (tick - now) = tick := by omega
    rw [spaced, clocked, htick, ih]

/-- Messages in the order of their ticks are never a negative time apart. -/
theorem delta_nonneg_of_mem_spaced {now : Int} {messages : List (Int × Message)}
    (hnow : ∀ m ∈ messages, now ≤ m.1) (h : messages.Pairwise fun a b => a.1 ≤ b.1) :
    ∀ event ∈ spaced now messages, 0 ≤ event.delta := by
  induction messages generalizing now with
  | nil => exact nofun
  | cons first rest ih =>
    obtain ⟨tick, message⟩ := first
    obtain ⟨hfirst, hrest⟩ := List.pairwise_cons.mp h
    intro event hevent
    rcases List.mem_cons.mp hevent with rfl | hevent
    · have hfrom : now ≤ tick := hnow (tick, message) List.mem_cons_self
      exact Int.sub_nonneg_of_le hfrom
    · exact ih hfirst hrest event hevent

end Exporter

/-- The heading takes no time and plays nothing. -/
theorem of_mem_heading {score : Score} {events : List Event} (h : heading score = .ok events) :
    ∀ event ∈ events, event.delta = 0 ∧ event.message.pitch? = none := by
  have hgo : ∀ named : List Event,
      (∀ event ∈ named, event.delta = 0 ∧ event.message.pitch? = none) →
      (do return named ++ [⟨0, .tempo (← tempo score.bpm)⟩] : Except TrackError (List Event))
        = .ok events → ∀ event ∈ events, event.delta = 0 ∧ event.message.pitch? = none := by
    intro named hnamed h
    obtain ⟨value, -, h⟩ := bind_eq_ok h
    obtain rfl := Except.ok.inj h
    intro event hevent
    rcases List.mem_append.mp hevent with hevent | hevent
    · exact hnamed event hevent
    · obtain rfl := List.mem_singleton.mp hevent
      exact ⟨rfl, rfl⟩
  rw [heading] at h
  split at h
  · refine hgo _ ?_ h
    split
    · exact nofun
    · intro event hevent
      obtain rfl := List.mem_singleton.mp hevent
      exact ⟨rfl, rfl⟩
  · split at h
    · cases h
    · exact hgo [] nofun h

theorem messagesAt_append {pitch : Int} {heading rest : List Event}
    (h : ∀ event ∈ heading, event.delta = 0 ∧ event.message.pitch? = none) :
    messagesAt pitch (heading ++ rest) = messagesAt pitch rest := by
  induction heading with
  | nil => rfl
  | cons event heading ih =>
    obtain ⟨hdelta, hpitch⟩ := h event List.mem_cons_self
    rw [← ih fun event hevent => h event (List.mem_cons_of_mem _ hevent), messagesAt,
      List.cons_append, clocked, hdelta, Int.add_zero, List.filter_cons, if_neg (by simp [hpitch]),
      messagesAt]

/-! ## 7. The notes of a track -/

/-- **A track plays the notes of its score.** Its clock does not run backwards; at every pitch its
messages begin and end in turns, and the ticks of each turn are those of one note, in order; and the
tick of every beat is the exact position of the beat, rounded once. -/
theorem Exporter.track_plays {score : Score} {track : List Event} (hticks : 0 < e.ticksPerBeat)
    (hrates : ∀ b ∈ score.beats, 0 ≤ b.rate.num ∧ 0 < b.rate.den)
    (htones : ∀ b ∈ score.beats, b.tones.Nodup) (h : e.track score = .ok track) :
    (∀ event ∈ track, 0 ≤ event.delta)
      ∧ (∀ pitch : Int, turns? (messagesAt pitch track)
        = some (((e.notes score).filter (·.pitch = pitch)).map fun n => (n.start, n.stop)))
      ∧ ∀ k, RoundsTo (((score.beats.take k).map (·.rate.value)).sum * e.ticksPerBeat)
        (e.onset score.beats k) := by
  have hvalues : ∀ b ∈ score.beats, 0 ≤ b.rate.value := by
    intro b hb
    obtain ⟨hnum, hden⟩ := hrates b hb
    exact Rat.divInt_nonneg hnum hden.le
  obtain ⟨events, hheading, h⟩ := bind_eq_ok h
  obtain ⟨messages, hmessages, h⟩ := bind_eq_ok h
  obtain rfl := Except.ok.inj h
  obtain ⟨hpitches, rfl⟩ := messagesFrom_eq_ok hmessages
  rw [notes_eq]
  have hnotes : ∀ n ∈ e.notesFrom score.keyNote 0 score.beats,
      e.tick 0 ≤ n.start ∧ n.start < n.stop := start_of_mem_notesFrom hticks hvalues
  have hapart : (e.notesFrom score.keyNote 0 score.beats).Pairwise fun m n =>
      m.pitch = n.pitch → m.stop ≤ n.start := pairwise_notesFrom hticks hvalues htones
  generalize e.notesFrom score.keyNote 0 score.beats = ns at *
  rw [tick_zero] at hnotes
  have hsorted := pairwise_sortBy precedes_total precedes_trans
    (ns.flatMap (Note.messages e.velocity))
  refine ⟨?_, ?_, fun k => roundsTo_tick e _⟩
  · intro event hevent
    rcases List.mem_append.mp hevent with hevent | hevent
    · exact (of_mem_heading hheading event hevent).1.ge
    · refine delta_nonneg_of_mem_spaced ?_ (hsorted.imp ?_) event hevent
      · intro m hm
        obtain ⟨n, hn, hm⟩ := List.mem_flatMap.mp (mem_sortBy.mp hm)
        obtain ⟨hstart, hlong⟩ := hnotes n hn
        simp only [Note.messages, List.mem_cons, List.not_mem_nil, or_false] at hm
        rcases hm with rfl | rfl
        · exact hstart
        · exact hstart.trans hlong.le
      · intro a b hab
        rcases precedes_iff.mp hab with hlt | ⟨heq, -⟩
        · exact hlt.le
        · exact heq.le
  · intro pitch
    have hown : ∀ n ∈ ns.filter (·.pitch = pitch), n.start < n.stop :=
      fun n hn => (hnotes n (List.mem_filter.mp hn).1).2
    have hturns : (ns.filter (·.pitch = pitch)).Pairwise fun m n => m.stop ≤ n.start := by
      refine List.pairwise_filter.mpr (hapart.imp ?_)
      intro m n hbefore hm hn
      exact hbefore ((of_decide_eq_true hm).trans (of_decide_eq_true hn).symm)
    rw [messagesAt_append (of_mem_heading hheading), messagesAt, clocked_spaced,
      filter_sortBy precedes_total precedes_trans, filter_messages _ _ hpitches,
      sortBy_eq_self (pairwise_messages e.velocity hown hturns), turns?_messages]

/-- A chord, a beat that is too short for a tick, and a tone of the chord again. -/
def thirds : Score where
  bpm := 60
  beats := [
    { rate := .ofRat (mkRat 1 3), tones := [0, 4] },
    { rate := .ofRat (mkRat 1 3), tones := [7] },
    { rate := .ofInt 1, tones := [0] }]

/-- The track of that score at two ticks a beat. -/
def trackOfThirds : List Event :=
  [⟨0, .tempo 1000000⟩, ⟨0, .noteOn 60 80⟩, ⟨0, .noteOn 64 80⟩, ⟨1, .noteOff 60⟩, ⟨0, .noteOff 64⟩,
    ⟨0, .noteOn 60 80⟩, ⟨2, .noteOff 60⟩]

theorem Exporter.track_plays_sample :
    Exporter.track { ticksPerBeat := 2 } thirds = .ok trackOfThirds
      ∧ (∀ event ∈ trackOfThirds, 0 ≤ event.delta)
      ∧ ∀ pitch : Int, turns? (messagesAt pitch trackOfThirds)
        = some (((Exporter.notes { ticksPerBeat := 2 } thirds).filter (·.pitch = pitch)).map
          fun n => (n.start, n.stop)) :=
  have htrack : Exporter.track { ticksPerBeat := 2 } thirds = .ok trackOfThirds := by
    decide +kernel
  have hplays := track_plays (by decide) (by decide +kernel) (by decide) htrack
  ⟨htrack, hplays.1, hplays.2.1⟩

end SongSheet.Midi
