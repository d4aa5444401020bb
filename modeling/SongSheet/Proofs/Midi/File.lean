import SongSheet.Midi.File
import SongSheet.Proofs.Midi.Track

/-!
# MIDI files — which scores have one

A score has a file if nothing stands in the way of three things, which come one after the other: the
heading (`heading_ok_iff`), the messages of the tones, whose pitches have to be in range
(`error_of_messagesFrom`), and the octets (`file_of_forall`, `file_of_not_forall`). The velocity and
the ticks of the exporter are in range; a name with a code point of more than one octet is all that
can be wrong with the octets of a score whose beats last.
-/

set_option autoImplicit false

namespace SongSheet

/-- A score can have a heading: a name that is set is a text, and a beat takes no more microseconds
than three octets can count. -/
structure Score.HasHeading (score : Score) : Prop where
  name : score.name.isSet = true → ∃ name, score.name = .string name
  bpm : 4 ≤ score.bpm
  finite : Binary64.isBeyond score.bpm = false

/-- A score has a name of code points that take one octet each, if its name is a text. -/
def Score.HasNarrowName (score : Score) : Prop :=
  ∀ name, score.name = .string name → ∀ c ∈ name, c.val < 0x100

namespace Midi

/-! ## 1. The heading -/

/-- **A tempo fits in three octets from four beats a minute on.** -/
theorem exists_tempo_iff {bpm : Int} (h : 0 < bpm) :
    (∃ value, tempo bpm = .ok value) ↔ 4 ≤ bpm ∧ Binary64.isBeyond bpm = false := by
  rw [tempo, if_neg (Int.ne_of_gt h)]
  by_cases hbeyond : Binary64.isBeyond bpm = true
  · rw [if_pos hbeyond]
    exact iff_of_false nofun fun hfits => by rw [hbeyond] at hfits; cases hfits.2
  have hden : 0 < bpm.natAbs := Int.natAbs_pos.mpr (Int.ne_of_gt h)
  have habs : (bpm.natAbs : Int) = bpm := Int.natAbs_of_nonneg h.le
  obtain ⟨hupper, hlower⟩ := roundHalfEven_near (microsecondsPerMinute * bpm.sign) hden
  rw [if_neg hbeyond, Int.sign_eq_one_of_pos h] at *
  rw [habs] at hupper hlower
  generalize roundHalfEven (microsecondsPerMinute * 1) bpm.natAbs = value at *
  -- Three beats a minute are 20000000 microseconds to the beat, four are 15000000.
  have hfits : (0 ≤ value ∧ value < Nat.pow 2 24) ↔ 4 ≤ bpm := by
    have hlimit : ((Nat.pow 2 24 : Nat) : Int) = 16777216 := rfl
    rw [hlimit]
    simp only [microsecondsPerMinute] at hupper hlower
    constructor
    · rintro ⟨-, hsmall⟩
      nlinarith
    · intro hfast
      constructor <;> nlinarith
  simp only [hfits]
  split
  case isTrue hfast => exact iff_of_true ⟨_, rfl⟩ ⟨hfast, Bool.eq_false_iff.mpr hbeyond⟩
  case isFalse hslow => exact iff_of_false nofun fun hfits => hslow hfits.1

theorem heading_string {score : Score} {name : Text} (h : score.name = .string name) :
    heading score = (tempo score.bpm).map fun value =>
      (if name.isEmpty then [] else [⟨0, .trackName name⟩]) ++ [⟨0, .tempo value⟩] := by
  rw [heading, h]
  cases tempo score.bpm <;> rfl

theorem heading_other {score : Score} (h : ∀ name, score.name ≠ .string name) :
    heading score = if score.name.isSet then .error .nameType
      else (tempo score.bpm).map fun value => [⟨0, .tempo value⟩] := by
  rw [heading]
  split
  case h_1 name hname => exact absurd hname (h name)
  case h_2 =>
    split
    · rfl
    · cases tempo score.bpm <;> rfl

theorem exists_heading_iff {score : Score} (h : 0 < score.bpm) :
    (∃ events, heading score = .ok events) ↔ score.HasHeading := by
  have htempo : ∀ make : Nat → List Event,
      (∃ events, (tempo score.bpm).map make = .ok events)
        ↔ 4 ≤ score.bpm ∧ Binary64.isBeyond score.bpm = false := by
    intro make
    rw [← exists_tempo_iff h]
    cases tempo score.bpm with
    | error => exact ⟨nofun, nofun⟩
    | ok value => exact ⟨fun _ => ⟨value, rfl⟩, fun _ => ⟨_, rfl⟩⟩
  by_cases hstring : ∃ name, score.name = .string name
  · obtain ⟨name, hname⟩ := hstring
    rw [heading_string hname, htempo]
    exact ⟨fun hbpm => ⟨fun _ => ⟨name, hname⟩, hbpm.1, hbpm.2⟩,
      fun hall => ⟨hall.bpm, hall.finite⟩⟩
  · rw [heading_other (not_exists.mp hstring)]
    split
    case isTrue hset => exact iff_of_false nofun fun hall => hstring (hall.name hset)
    case isFalse hunset =>
      rw [htempo]
      exact ⟨fun hbpm => ⟨fun hset => absurd hset hunset, hbpm.1, hbpm.2⟩,
        fun hall => ⟨hall.bpm, hall.finite⟩⟩

/-! ## 2. The messages -/

namespace Exporter

variable {e : Exporter}

/-- All that can be wrong with the tones is a pitch out of range. -/
theorem error_of_messagesFrom (hvelocity : 0 ≤ e.velocity ∧ e.velocity ≤ 127) {keyNote : Int}
    {position : Rat} {beats : List Beat} {error : TrackError}
    (h : e.messagesFrom keyNote position beats = .error error) :
    ∃ pitch, error = .sheet (.midiPitch pitch) := by
  have htone : ∀ start stop tone, e.toneMessages keyNote start stop tone = .error error →
      ∃ pitch, error = .sheet (.midiPitch pitch) := by
    intro start stop tone htone
    rw [toneMessages] at htone
    split at htone
    case isTrue =>
      cases htone
      exact ⟨_, rfl⟩
    case isFalse =>
      rw [if_neg (by omega)] at htone
      cases htone
  induction beats generalizing position with
  | nil => cases h
  | cons beat rest ih =>
    rw [messagesFrom] at h
    split at h
    case isTrue =>
      rcases bind_eq_error h with hown | ⟨own, -, h⟩
      · cases hown
      · rcases bind_eq_error h with hrest | ⟨others, -, h⟩
        · exact ih hrest
        · cases h
    case isFalse =>
      rcases bind_eq_error h with hown | ⟨own, -, h⟩
      · obtain ⟨tone, -, hone⟩ := exists_error_of_mapM hown
        exact htone _ _ _ hone
      · rcases bind_eq_error h with hrest | ⟨others, -, h⟩
        · exact ih hrest
        · cases h

/-- A score with a heading has a track, or a pitch that is out of range. -/
theorem error_of_track (hvelocity : 0 ≤ e.velocity ∧ e.velocity ≤ 127) {score : Score}
    {events : List Event} {error : TrackError} (hheading : heading score = .ok events)
    (h : e.track score = .error error) : ∃ pitch, error = .sheet (.midiPitch pitch) := by
  rw [track, hheading, ok_bind] at h
  rcases bind_eq_error h with hmessages | ⟨messages, -, h⟩
  · exact error_of_messagesFrom hvelocity hmessages
  · cases h

/-- A score without a heading has no track, and that is no matter of pitches. -/
theorem error_of_not_hasHeading {score : Score} (hbpm : 0 < score.bpm) (h : ¬score.HasHeading) :
    ∃ error, e.track score = .error error ∧ ∀ s, error ≠ .sheet s := by
  cases hheading : heading score with
  | ok events => exact absurd ((exists_heading_iff hbpm).mp ⟨events, hheading⟩) h
  | error error =>
    refine ⟨error, by rw [track, hheading]; rfl, ?_⟩
    rintro s rfl
    have htempo : ∀ make : Nat → List Event, (tempo score.bpm).map make ≠ .error (.sheet s) := by
      intro make hmake
      have htempo := error_of_map hmake
      rw [tempo] at htempo
      split at htempo
      · cases htempo
      · split at htempo
        · cases htempo
        · dsimp only at htempo
          split at htempo <;> cases htempo
    by_cases hstring : ∃ name, score.name = .string name
    · obtain ⟨name, hname⟩ := hstring
      rw [heading_string hname] at hheading
      exact htempo _ hheading
    · rw [heading_other (not_exists.mp hstring)] at hheading
      split at hheading
      · cases hheading
      · exact htempo _ hheading

/-- **The clock of a track does not run backwards** where no beat does. -/
theorem delta_nonneg_of_mem_track (hticks : 0 < e.ticksPerBeat) {score : Score}
    {events : List Event} (hrates : ∀ b ∈ score.beats, 0 ≤ b.rate.value)
    (h : e.track score = .ok events) : ∀ event ∈ events, 0 ≤ event.delta := by
  obtain ⟨named, hheading, h⟩ := bind_eq_ok h
  obtain ⟨messages, hmessages, h⟩ := bind_eq_ok h
  obtain rfl := Except.ok.inj h
  obtain ⟨-, rfl⟩ := messagesFrom_eq_ok hmessages
  intro event hevent
  rcases List.mem_append.mp hevent with hevent | hevent
  · exact (of_mem_heading hheading event hevent).1.ge
  · refine delta_nonneg_of_mem_spaced ?_ ?_ event hevent
    · intro m hm
      obtain ⟨n, hn, hm⟩ := List.mem_flatMap.mp (mem_sortBy.mp hm)
      obtain ⟨hstart, hlong⟩ := start_of_mem_notesFrom hticks hrates n hn
      rw [tick_zero] at hstart
      simp only [Note.messages, List.mem_cons, List.not_mem_nil, or_false] at hm
      rcases hm with rfl | rfl
      · exact hstart
      · exact hstart.trans hlong.le
    · refine (pairwise_sortBy precedes_total precedes_trans _).imp fun hab => ?_
      rcases precedes_iff.mp hab with hlt | ⟨heq, -⟩
      · exact hlt.le
      · exact heq.le

end Exporter

/-! ## 3. The octets -/

/-- A message whose name, if it is one, has an octet for each code point. -/
def Message.IsNarrow : Message → Prop
  | .trackName name => ∀ c ∈ name, c.val < 0x100
  | _ => True

theorem content_narrow {message : Message} (h : message.IsNarrow) :
    ∃ octets, content message = .ok octets := by
  cases message with
  | trackName name =>
    have hall : name.all (·.val < 0x100) = true := by simpa [Message.IsNarrow] using h
    rw [content, nameOctets, if_pos hall]
    exact ⟨_, rfl⟩
  | tempo => exact ⟨_, rfl⟩
  | noteOn => exact ⟨_, rfl⟩
  | noteOff => exact ⟨_, rfl⟩

theorem content_not_narrow {message : Message} (h : ¬message.IsNarrow) :
    content message = .error .nameEncoding := by
  cases message with
  | trackName name =>
    have hall : ¬name.all (·.val < 0x100) = true := by simpa [Message.IsNarrow] using h
    rw [content, nameOctets, if_neg hall]
    rfl
  | tempo => exact absurd trivial h
  | noteOn => exact absurd trivial h
  | noteOff => exact absurd trivial h

/-- **Events have octets if their names do**, as long as none comes before the one in front. -/
theorem eventOctets_narrow {events : List Event} (hdelta : ∀ event ∈ events, 0 ≤ event.delta)
    (h : ∀ event ∈ events, event.message.IsNarrow) (running : Option UInt8) :
    ∃ octets, eventOctets running events = .ok octets := by
  induction events generalizing running with
  | nil => exact ⟨_, rfl⟩
  | cons event rest ih =>
    obtain ⟨hfirst, hdelta⟩ := List.forall_mem_cons.mp hdelta
    obtain ⟨hnarrow, h⟩ := List.forall_mem_cons.mp h
    obtain ⟨own, hown⟩ := content_narrow hnarrow
    obtain ⟨others, hothers⟩ := ih hdelta h (noteStatus? event.message)
    rw [eventOctets, if_neg (not_lt.mpr hfirst), hown, ok_bind]
    dsimp only
    rw [hothers]
    exact ⟨_, rfl⟩

theorem eventOctets_not_narrow {events : List Event} (hdelta : ∀ event ∈ events, 0 ≤ event.delta)
    (h : ¬∀ event ∈ events, event.message.IsNarrow) (running : Option UInt8) :
    eventOctets running events = .error .nameEncoding := by
  induction events generalizing running with
  | nil => exact absurd nofun h
  | cons event rest ih =>
    obtain ⟨hfirst, hdelta⟩ := List.forall_mem_cons.mp hdelta
    rw [eventOctets, if_neg (not_lt.mpr hfirst)]
    by_cases hnarrow : event.message.IsNarrow
    · obtain ⟨own, hown⟩ := content_narrow hnarrow
      have hrest : ¬∀ event ∈ rest, event.message.IsNarrow :=
        fun hrest => h (List.forall_mem_cons.mpr ⟨hnarrow, hrest⟩)
      rw [hown, ok_bind]
      dsimp only
      rw [ih hdelta hrest]
      rfl
    · rw [content_not_narrow hnarrow]
      rfl

namespace Exporter

variable {e : Exporter}

theorem mem_of_mem_spaced {now : Int} {messages : List (Int × Message)} {event : Event}
    (h : event ∈ spaced now messages) : ∃ m ∈ messages, event.message = m.2 := by
  induction messages generalizing now with
  | nil => cases h
  | cons first rest ih =>
    rcases List.mem_cons.mp h with rfl | h
    · exact ⟨first, .head _, rfl⟩
    · obtain ⟨m, hm, hmessage⟩ := ih h
      exact ⟨m, .tail _ hm, hmessage⟩

/-- The heading alone has a name, which is that of the score. -/
theorem narrow_heading_iff {score : Score} {events : List Event}
    (h : heading score = .ok events) :
    (∀ event ∈ events, event.message.IsNarrow) ↔ score.HasNarrowName := by
  by_cases hstring : ∃ name, score.name = .string name
  · obtain ⟨name, hname⟩ := hstring
    have hnarrow : score.HasNarrowName ↔ ∀ c ∈ name, c.val < 0x100 := by
      rw [Score.HasNarrowName]
      constructor
      · exact fun hall => hall name hname
      · intro hall name' hname'
        cases hname.symm.trans hname'
        exact hall
    rw [heading_string hname] at h
    obtain ⟨value, -, rfl⟩ := map_eq_ok h
    rw [hnarrow]
    cases name with
    | nil => simp [Message.IsNarrow]
    | cons c name => simp [Message.IsNarrow]
  · have hnarrow : score.HasNarrowName := fun name hname => absurd ⟨name, hname⟩ hstring
    rw [heading_other (not_exists.mp hstring)] at h
    split at h
    · cases h
    · obtain ⟨value, -, rfl⟩ := map_eq_ok h
      exact iff_of_true (by simp [Message.IsNarrow]) hnarrow

theorem narrow_track_iff {score : Score} {events : List Event} (h : e.track score = .ok events) :
    (∀ event ∈ events, event.message.IsNarrow) ↔ score.HasNarrowName := by
  obtain ⟨named, hheading, h⟩ := bind_eq_ok h
  obtain ⟨messages, hmessages, h⟩ := bind_eq_ok h
  obtain rfl := Except.ok.inj h
  obtain ⟨-, rfl⟩ := messagesFrom_eq_ok hmessages
  rw [← narrow_heading_iff hheading]
  refine ⟨fun hall event hevent => hall event (List.mem_append_left _ hevent), ?_⟩
  intro hall event hevent
  rcases List.mem_append.mp hevent with hevent | hevent
  · exact hall event hevent
  · -- Behind the heading there are messages of notes only.
    obtain ⟨m, hm, hmessage⟩ := mem_of_mem_spaced hevent
    obtain ⟨n, -, hm⟩ := List.mem_flatMap.mp (mem_sortBy.mp hm)
    simp only [Note.messages, List.mem_cons, List.not_mem_nil, or_false] at hm
    rw [hmessage]
    rcases hm with rfl | rfl <;> trivial

/-- The header of the files that the exporter writes. -/
def header : List UInt8 := ((headerChunk ({} : Exporter).ticksPerBeat).toOption).getD []

/-- **A track is written as a file exactly if the name of its score is narrow.** -/
theorem file_track {score : Score} {events : List Event} (hticks : 0 < e.ticksPerBeat)
    (hrates : ∀ b ∈ score.beats, 0 ≤ b.rate.value) (h : e.track score = .ok events) :
    (score.HasNarrowName → ∃ octets, file ({} : Exporter).ticksPerBeat events = .ok octets)
      ∧ (¬score.HasNarrowName →
        file ({} : Exporter).ticksPerBeat events = .error .nameEncoding) := by
  have hdelta := delta_nonneg_of_mem_track hticks hrates h
  have hheader : ∃ octets, headerChunk ({} : Exporter).ticksPerBeat = .ok octets := ⟨_, rfl⟩
  obtain ⟨front, hfront⟩ := hheader
  rw [← narrow_track_iff h, file, hfront, ok_bind]
  constructor
  · intro hnarrow
    obtain ⟨octets, hoctets⟩ := eventOctets_narrow hdelta hnarrow none
    rw [hoctets]
    exact ⟨_, rfl⟩
  · intro hwide
    rw [eventOctets_not_narrow hdelta hwide none]
    rfl

end Exporter

end Midi

end SongSheet
