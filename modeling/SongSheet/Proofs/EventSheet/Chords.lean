import SongSheet.Proofs.EventSheet.Presses
import SongSheet.Proofs.Placement
import SongSheet.Proofs.Soundings

/-!
# The chords of a placed score

An event sheet has no beats: a beat is a moment with keys, rounded down to a millisecond, and beats
that fall on one moment become one chord. Said without the presses, the chords are the soundings of
the score *gathered by onset* (`Gathers`), and what is heard is each of them up to the next
(`heard`). Here the two descriptions meet: the presses of the strokes at a moment are the tones of
the beats at that moment, in some order (`tones_at_perm`).
-/

set_option autoImplicit false

namespace SongSheet.EventSheet

/-! ## 1. Soundings gathered by onset -/

/-- Chords are soundings gathered by onset: the moments are those of the soundings, in order and
each once, and the tones at a moment are those of all soundings there, in any order. -/
structure Gathers (sounding chords : List (Int × List Int)) : Prop where
  increasing : chords.Pairwise (·.1 < ·.1)
  onsets : ∀ time, (∃ c ∈ chords, c.1 = time) ↔ ∃ s ∈ sounding, s.1 = time
  tones : ∀ c ∈ chords, c.2.Perm ((sounding.filter (·.1 == c.1)).flatMap (·.2))

/-- The milliseconds that a beat lasts at a tempo, rounded down. -/
def milliseconds (bpm : Int) (b : Beat) : Int := 60000 * b.rate.num / (bpm * b.rate.den)

theorem delay_eq {bpm : Int} {b : Beat} (hbpm : 0 < bpm) (hden : 0 < b.rate.den) :
    Placement.delay bpm b.rate = milliseconds bpm b := by
  rw [Placement.delay, Int.fdiv_eq_ediv_of_nonneg _ (Int.mul_pos hbpm hden).le, Int.mul_comm]
  rfl

theorem milliseconds_nonneg {bpm : Int} {b : Beat} (hbpm : 0 < bpm) (hnum : 0 ≤ b.rate.num)
    (hden : 0 < b.rate.den) : 0 ≤ milliseconds bpm b :=
  Int.ediv_nonneg (Int.mul_nonneg (by decide) hnum) (Int.mul_pos hbpm hden).le

/-! ## 2. Presses and soundings -/

/-- A beat at the pitches that are pressed for it. -/
def atPitch (keyNote shift : Int) (b : Beat) : Beat :=
  { b with tones := b.tones.map (· + keyNote + shift) }

/-- The chords that a score sounds at the pitches of the keys, with their onsets. -/
def sounded (score : Score) (shift clock : Int) (bs : List Beat) : List (Int × List Int) :=
  soundings (milliseconds score.bpm) clock (bs.map (atPitch score.keyNote shift))

/-- The tones that presses sound at a moment. -/
def tonesAt (time : Int) (ps : List Press) : List Int :=
  (ps.filter (·.time == time)).map fun p => Pitch.ofDegree p.key

variable {score : Score} {shift : Int} {bs : List Beat} {strokes : List Stroke}

theorem keyPitch_layout (key : Nat) : layout.keyPitch key = Pitch.ofDegree key := by
  rw [KeyLayout.keyPitch]
  exact congrArg Pitch.ofDegree (Int.add_zero _)

/-- The keys of a stroke sound the beat. -/
theorem tones_of_isStrokeOf {b : Beat} {s : Stroke}
    (h : Placement.IsStrokeOf score layout shift b s) :
    s.keys.map (fun key : Nat => Pitch.ofDegree key) = (atPitch score.keyNote shift b).tones := by
  have hkeys := h.map_keys
  simp only [keyPitch_layout] at hkeys
  exact hkeys

/-- Nothing is pressed for a rest, and only for a rest. -/
theorem keys_eq_nil_iff {b : Beat} {s : Stroke} (h : Placement.IsStrokeOf score layout shift b s) :
    s.keys = [] ↔ b.tones = [] := by
  rw [← List.length_eq_zero_iff, ← List.length_eq_zero_iff, h.keys.length_eq]

theorem sounded_cons (clock : Int) (b : Beat) (bs : List Beat) :
    sounded score shift clock (b :: bs)
      = if b.tones.isEmpty then sounded score shift (clock + milliseconds score.bpm b) bs
        else (clock, (atPitch score.keyNote shift b).tones)
          :: sounded score shift (clock + milliseconds score.bpm b) bs := by
  have hempty : (atPitch score.keyNote shift b).tones.isEmpty = b.tones.isEmpty :=
    List.isEmpty_map
  rw [sounded, List.map_cons, soundings, hempty]
  rfl

theorem tonesAt_append (time : Int) (ps qs : List Press) :
    tonesAt time (ps ++ qs) = tonesAt time ps ++ tonesAt time qs := by
  rw [tonesAt, List.filter_append, List.map_append]
  rfl

/-- A stroke sounds all of its keys at its own time. -/
theorem tonesAt_strokePresses (time : Int) (keys : List Nat) :
    (tonesAt time (strokePresses time keys)).Perm
      (keys.map fun key : Nat => Pitch.ofDegree key) := by
  have hall : (strokePresses time keys).filter (·.time == time) = strokePresses time keys := by
    refine List.filter_eq_self.mpr ?_
    intro p hp
    rw [time_of_mem_strokePresses hp]
    exact beq_self_eq_true time
  have hperm := (strokePresses_perm time keys).map fun key : Nat => Pitch.ofDegree key
  rw [List.map_map] at hperm
  rw [tonesAt, hall]
  exact hperm

theorem tonesAt_strokePresses_of_ne {time other : Int} (h : other ≠ time) (keys : List Nat) :
    tonesAt time (strokePresses other keys) = [] := by
  have hnone : (strokePresses other keys).filter (·.time == time) = [] := by
    refine List.filter_eq_nil_iff.mpr ?_
    intro p hp
    rw [time_of_mem_strokePresses hp]
    simpa using h
  rw [tonesAt, hnone]
  rfl

/-- **The presses at a moment are the tones of the beats there**, in some order. -/
theorem tonesAt_perm (hstrokes : List.Forall₂ (Placement.IsStrokeOf score layout shift) bs strokes)
    (hdelay : ∀ b ∈ bs, Placement.delay score.bpm b.rate = milliseconds score.bpm b) (clock : Int)
    (time : Int) :
    (tonesAt time (pressesOf clock strokes)).Perm
      (((sounded score shift clock bs).filter (·.1 == time)).flatMap (·.2)) := by
  induction hstrokes generalizing clock with
  | nil => exact List.Perm.nil
  | @cons b s bs strokes hs hstrokes ih =>
    have ih := ih (fun c hc => hdelay c (by simp [hc])) (clock + milliseconds score.bpm b)
    rw [pressesOf, tonesAt_append, hs.delay, hdelay b (by simp), sounded_cons]
    have htones := tones_of_isStrokeOf hs
    by_cases hempty : b.tones.isEmpty
    · -- A rest moves the clock and nothing else.
      rw [if_pos hempty, (keys_eq_nil_iff hs).mpr (List.isEmpty_iff.mp hempty)]
      exact ih
    · rw [if_neg hempty, List.filter_cons]
      -- Only the strokes at this very moment count, and a later beat may be at it too.
      by_cases htime : clock = time
      · subst htime
        rw [if_pos (beq_self_eq_true clock), List.flatMap_cons]
        refine List.Perm.append ?_ ih
        rw [← htones]
        exact tonesAt_strokePresses clock s.keys
      · rw [if_neg (by simpa using htime), tonesAt_strokePresses_of_ne htime]
        exact ih

/-- A moment has presses exactly when a beat sounds there. -/
theorem exists_press_iff
    (hstrokes : List.Forall₂ (Placement.IsStrokeOf score layout shift) bs strokes)
    (hdelay : ∀ b ∈ bs, Placement.delay score.bpm b.rate = milliseconds score.bpm b) (clock : Int)
    (time : Int) :
    (∃ p ∈ pressesOf clock strokes, p.time = time)
      ↔ ∃ c ∈ sounded score shift clock bs, c.1 = time := by
  induction hstrokes generalizing clock with
  | nil => simp [pressesOf, sounded, soundings]
  | @cons b s bs strokes hs hstrokes ih =>
    have ih := ih (fun c hc => hdelay c (by simp [hc])) (clock + milliseconds score.bpm b)
    rw [pressesOf, hs.delay, hdelay b (by simp), sounded_cons]
    by_cases hempty : b.tones.isEmpty
    · rw [if_pos hempty, (keys_eq_nil_iff hs).mpr (List.isEmpty_iff.mp hempty)]
      exact ih
    · have hkeys : s.keys ≠ [] := fun hnil => hempty (by simp [(keys_eq_nil_iff hs).mp hnil])
      rw [if_neg hempty, List.exists_mem_cons_iff, ← ih]
      constructor
      · rintro ⟨p, hp, htime⟩
        rcases List.mem_append.mp hp with hp | hp
        · exact Or.inl ((time_of_mem_strokePresses hp).symm.trans htime)
        · exact Or.inr ⟨p, hp, htime⟩
      · rintro (htime | ⟨p, hp, htime⟩)
        · obtain ⟨p, hp⟩ := List.exists_mem_of_ne_nil _ (strokePresses_ne_nil clock hkeys)
          exact ⟨p, List.mem_append_left _ hp, (time_of_mem_strokePresses hp).trans htime⟩
        · exact ⟨p, List.mem_append_right _ hp, htime⟩

/-- The chords that presses make: their moments in order, with the tones pressed there. -/
def chordsOf (ps : List Press) : List (Int × List Int) :=
  (moments (ps.map (·.time))).map fun time => (time, tonesAt time ps)

/-- **The chords of a placed score are its soundings, gathered by onset.** -/
theorem gathers_chordsOf
    (hstrokes : List.Forall₂ (Placement.IsStrokeOf score layout shift) bs strokes)
    (hdelay : ∀ b ∈ bs, Placement.delay score.bpm b.rate = milliseconds score.bpm b) (clock : Int) :
    Gathers (sounded score shift clock bs) (chordsOf (pressesOf clock strokes)) where
  increasing := List.pairwise_map.mpr (pairwise_moments _)
  onsets := by
    intro time
    rw [← exists_press_iff hstrokes hdelay]
    constructor
    · rintro ⟨c, hc, htime⟩
      obtain ⟨moment, hmoment, rfl⟩ := List.mem_map.mp hc
      obtain ⟨p, hp, hpress⟩ := List.mem_map.mp (mem_moments.mp hmoment)
      exact ⟨p, hp, hpress.trans htime⟩
    · rintro ⟨p, hp, rfl⟩
      have hmoment : p.time ∈ moments ((pressesOf clock strokes).map (·.time)) :=
        mem_moments.mpr (List.mem_map_of_mem hp)
      exact ⟨_, List.mem_map_of_mem hmoment, rfl⟩
  tones := by
    intro c hc
    obtain ⟨moment, -, rfl⟩ := List.mem_map.mp hc
    exact tonesAt_perm hstrokes hdelay clock moment

/-- Strokes follow each other forwards, and press keys of the layout. -/
theorem mem_pressesOf {clock : Int}
    (hstrokes : List.Forall₂ (Placement.IsStrokeOf score layout shift) bs strokes)
    (hdelay : ∀ b ∈ bs, 0 ≤ Placement.delay score.bpm b.rate) :
    ∀ p ∈ pressesOf clock strokes, clock ≤ p.time ∧ p.key < layout.keyCount := by
  induction hstrokes generalizing clock with
  | nil => exact nofun
  | @cons b s bs strokes hs hstrokes ih =>
    intro p hp
    rcases List.mem_append.mp hp with hp | hp
    · have hkey : p.key ∈ s.keys :=
        (strokePresses_perm clock s.keys).mem_iff.mp (List.mem_map_of_mem hp)
      rw [time_of_mem_strokePresses hp]
      exact ⟨le_refl clock, hs.key_lt p.key hkey⟩
    · obtain ⟨htime, hkey⟩ := ih (fun c hc => hdelay c (by simp [hc])) p hp
      have hforwards := hdelay b (by simp)
      rw [← hs.delay] at hforwards
      exact ⟨by omega, hkey⟩

/-- **A score that can be transposed has its strokes**, each as many milliseconds long as its beat,
and what they press is on the keys of the layout and not before the start. -/
theorem exists_strokes (hbpm : 0 < score.bpm)
    (hrates : ∀ b ∈ score.beats, 0 ≤ b.rate.num ∧ 0 < b.rate.den)
    (hshift : Placement.transposition score layout = .ok shift) :
    ∃ strokes, Placement.place score layout = .ok ⟨shift, strokes⟩
      ∧ List.Forall₂ (Placement.IsStrokeOf score layout shift) score.beats strokes
      ∧ (∀ b ∈ score.beats, Placement.delay score.bpm b.rate = milliseconds score.bpm b)
      ∧ ∀ p ∈ pressesOf 0 strokes, 0 ≤ p.time ∧ p.key < layout.keyCount := by
  obtain ⟨strokes, hplace, hstrokes⟩ := Placement.place_eq_ok hbpm hshift
  have hdelay : ∀ b ∈ score.beats,
      Placement.delay score.bpm b.rate = milliseconds score.bpm b :=
    fun b hb => delay_eq hbpm (hrates b hb).2
  have hforwards : ∀ b ∈ score.beats, 0 ≤ Placement.delay score.bpm b.rate := by
    intro b hb
    rw [hdelay b hb]
    exact milliseconds_nonneg hbpm (hrates b hb).1 (hrates b hb).2
  exact ⟨strokes, hplace, hstrokes, hdelay, mem_pressesOf hstrokes hforwards⟩

/-- Other pitches sound at the same moments. -/
theorem onsets_atPitch (bpm keyNote shift clock : Int) (bs : List Beat) :
    onsets (milliseconds bpm) clock (bs.map (atPitch keyNote shift))
      = onsets (milliseconds bpm) clock bs := by
  induction bs generalizing clock with
  | nil => rfl
  | cons b bs ih =>
    rw [List.map_cons]
    by_cases hrest : b.tones = []
    · have hmoved : (atPitch keyNote shift b).tones = [] := by
        rw [atPitch, hrest]
        rfl
      rw [onsets_rest hrest, onsets_rest hmoved]
      exact ih _
    · have hmoved : (atPitch keyNote shift b).tones ≠ [] := by
        rw [atPitch]
        exact mt List.map_eq_nil_iff.mp hrest
      rw [onsets_chord hrest, onsets_chord hmoved]
      exact congrArg _ (ih _)

/-! ## 3. What is heard -/

/-- The beats of chords that each sound up to the next, the last one for four beats. -/
def heldToNext (bpm : Int) : List (Int × List Int) → List Beat
  | [] => []
  | [(_, tones)] => [{ rate := .ofInt 4, tones }]
  | (onset, tones) :: (next, keys) :: rest =>
    { rate := { num := (next - onset) * bpm, den := 60000 }, tones }
      :: heldToNext bpm ((next, keys) :: rest)

/-- What is heard of chords on a clock in milliseconds: a rest up to the first of them, then each up
to the next. Without a chord it is one rest of four beats. -/
def heard (bpm : Int) (chords : List (Int × List Int)) : List Beat :=
  match chords with
  | [] => [{ rate := .ofInt 4, tones := [] }]
  | (onset, _) :: _ =>
    if 0 < onset then
      { rate := { num := onset * bpm, den := 60000 }, tones := [] } :: heldToNext bpm chords
    else heldToNext bpm chords

/-- Where no chord starts with the one before it, the reader holds each up to the next. -/
theorem beats_eq_heldToNext {bpm onset : Int} {tones : List Int} {chords : List (Int × List Int)}
    (h : ((onset, tones) :: chords).Pairwise (·.1 < ·.1)) :
    beats bpm onset tones chords = heldToNext bpm ((onset, tones) :: chords) := by
  induction chords generalizing onset tones with
  | nil => rfl
  | cons c chords ih =>
    obtain ⟨next, keys⟩ := c
    obtain ⟨hfirst, hrest⟩ := List.pairwise_cons.mp h
    have hgap : ¬next - onset = 0 := by
      have hlt : onset < next := hfirst (next, keys) (by simp)
      omega
    rw [beats, heldToNext, if_neg hgap, ih hrest]
    rfl

theorem beats_eq_heard {bpm : Int} {chords : List (Int × List Int)}
    (h : chords.Pairwise (·.1 < ·.1)) (hclock : ∀ c ∈ chords, 0 ≤ c.1) :
    beats bpm 0 [] chords = heard bpm chords := by
  cases chords with
  | nil => rfl
  | cons c chords =>
    obtain ⟨onset, tones⟩ := c
    have hzero : 0 ≤ onset := hclock (onset, tones) (by simp)
    rw [beats, heard, Int.sub_zero, beats_eq_heldToNext h]
    by_cases hstart : onset = 0
    · rw [if_pos hstart, if_neg (by omega)]
    · rw [if_neg hstart, if_pos (by omega)]
      rfl

end SongSheet.EventSheet
