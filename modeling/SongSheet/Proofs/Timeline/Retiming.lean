import Mathlib.Data.List.Sort
import SongSheet.Proofs.EventSheet.RoundTrip
import SongSheet.Proofs.Timeline.Beats

/-!
# Timelines — the clock of the event sheet

A timeline has its keys on a clock in milliseconds, and so has the event sheet that is written of
it, but between the two the score has beats in units and a tempo in whole units to the minute. The
unit is the shortest beat, so no time is lost on the way to the score: **the score sounds where the
timeline has its keys** (`onsets_eq_keyClocks`). The tempo is rounded, and a time of `n` ms comes
back as `60000 * n / (60000 / unit * unit)`, rounded down once more. The two roundings cancel
exactly when `(n + 1) * (60000 % unit) < 60000` (`milliseconds_eq_iff`), and otherwise they make the
time longer. So **the event sheet has its notes where the timeline has its keys exactly when they
cancel for every beat ahead of a sounding one** (`noteTimes_exact`).
-/

set_option autoImplicit false

namespace SongSheet

namespace Timeline

/-! ## 1. Where the keys stand -/

/-- The clock at every key of items, in the order in which they stand. -/
def keyClocks (clock : Nat) : List Item → List Nat
  | [] => []
  | .key _ :: rest => clock :: keyClocks clock rest
  | .hold time waits :: rest => keyClocks (clock + if waits then time else 0) rest
  | .wait time :: rest => keyClocks (clock + time) rest

/-- A press with keys starts at a time. -/
def SoundsAt (time : Nat) (ps : List Press) : Prop := ∃ p ∈ ps, p.keys ≠ [] ∧ p.start = time

theorem soundsAt_cons {time : Nat} {p : Press} {ps : List Press} :
    SoundsAt time (p :: ps) ↔ (p.keys ≠ [] ∧ p.start = time) ∨ SoundsAt time ps :=
  List.exists_mem_cons_iff ..

/-- Presses have keys where the items do, and where the press that goes on does. -/
theorem soundsAt_pressesFrom {time : Nat} (items : List Item) (clock : Nat) (current : Press) :
    SoundsAt time (pressesFrom clock current items)
      ↔ (current.keys ≠ [] ∧ current.start = time) ∨ time ∈ keyClocks clock items := by
  induction items generalizing clock current with
  | nil => simp [pressesFrom, SoundsAt, keyClocks]
  | cons item items ih =>
    cases item with
    | key pitch =>
      have hnext : SoundsAt time (pressesFrom clock { start := clock, keys := [pitch] } items)
          ↔ time ∈ keyClocks clock (.key pitch :: items) := by
        rw [ih, keyClocks, List.mem_cons, eq_comm (a := time)]
        simp
      rw [pressesFrom]
      by_cases hidle : current.keys.isEmpty ∧ current.wait = 0
      · have hsilent : current.keys = [] := List.isEmpty_iff.mp hidle.1
        rw [if_pos hidle, hnext, or_iff_right fun h => h.1 hsilent]
      · rw [if_neg hidle, soundsAt_cons, hnext]
    | hold time waits => exact ih _ _
    | wait time => exact ih _ _

/-- A moment has keys where one of its presses has. -/
theorem soundsAt_momentsAfter {time : Nat} {p : Press} {ps : List Press}
    (h : (p :: ps).IsChain Follows) :
    SoundsAt time (momentsAfter p ps) ↔ SoundsAt time (p :: ps) := by
  induction ps generalizing p with
  | nil => exact Iff.rfl
  | cons q ps ih =>
    obtain ⟨hq, hrest⟩ := List.isChain_cons_cons.mp h
    by_cases hjoins : p.wait = 0
    · -- Without a wait both presses start at one time, and so does the press that they join to.
      have hstart : q.start = p.start := by rw [hq, hjoins, Nat.add_zero]
      have hkeys : (p.join q).keys ≠ [] ↔ p.keys ≠ [] ∨ q.keys ≠ [] := by
        show p.keys ++ q.keys ≠ [] ↔ _
        rw [ne_eq, List.append_eq_nil_iff, not_and_or]
      rw [momentsAfter_join hjoins, ih (hq.join hjoins hrest), soundsAt_cons, soundsAt_cons,
        soundsAt_cons, hkeys, hstart, or_and_right, or_assoc]
      rfl
    · rw [momentsAfter_wait hjoins, soundsAt_cons, ih hrest, soundsAt_cons (p := p)]

theorem soundsAt_moments {time : Nat} (items : List Item) :
    SoundsAt time (moments (presses items)) ↔ time ∈ keyClocks 0 items := by
  obtain ⟨p, ps, hps, -, -, hchain, -⟩ := pressesFrom_spec items 0 { start := 0 } rfl
  have hkeys : SoundsAt time (pressesFrom 0 { start := 0 } items) ↔ _ ∨ time ∈ keyClocks 0 items :=
    soundsAt_pressesFrom items 0 { start := 0 }
  rw [hps, or_iff_right fun h => h.1 rfl] at hkeys
  have hpresses : presses items = p :: ps := hps
  rw [hpresses, ← hkeys]
  exact soundsAt_momentsAfter hchain

/-- The beats of moments sound where the moments have keys. -/
theorem mem_onsets_beats {unit : Nat} {hne : unit ≠ 0} {m : Press} {ms : List Press}
    (h : (m :: ms).IsChain Settles) {time : Int} :
    time ∈ onsets (·.rate.num) m.start (((m :: ms).flatMap Press.beats).map (Span.toBeat unit hne))
      ↔ ∃ clock : Nat, SoundsAt clock (m :: ms) ∧ (clock : Int) = time := by
  rw [onsets, soundings_beats h, List.map_map, List.mem_map]
  constructor
  · rintro ⟨c, hc, rfl⟩
    obtain ⟨p, hp, hc⟩ := List.mem_flatMap.mp hc
    rw [Press.chord] at hc
    split at hc
    case isTrue => cases hc
    case isFalse hkeys =>
      cases List.mem_singleton.mp hc
      exact ⟨p.start, ⟨p, hp, hkeys, rfl⟩, rfl⟩
  · rintro ⟨_, ⟨p, hp, hkeys, rfl⟩, rfl⟩
    have hchord : ((p.start : Int), p.keys) ∈ p.chord := by
      rw [Press.chord, if_neg hkeys]
      exact List.mem_singleton_self _
    exact ⟨_, List.mem_flatMap.mpr ⟨p, hp, hchord⟩, rfl⟩

/-! ## 2. Where the score sounds -/

variable {name content : Text} {score : Score}

/-- The beats of a timeline last, and the unit that they share gives the tempo. -/
theorem rates_of_read (h : read name content version = .ok score) :
    0 < score.bpm ∧ ∀ b ∈ score.beats, 0 < b.rate.num ∧ 0 < b.rate.den ∧ b.rate.den ≤ 60000
      ∧ score.bpm = 60000 / b.rate.den := by
  obtain ⟨-, m, ms, unit, hne, -, -, -, -, -, hle, rfl⟩ := exists_moments_of_read h
  refine ⟨Int.natCast_pos.mpr (Nat.div_pos hle (Nat.pos_of_ne_zero hne)), ?_⟩
  intro b hb
  obtain ⟨s, -, rfl⟩ := List.mem_map.mp hb
  refine ⟨?_, Int.natCast_pos.mpr (Nat.pos_of_ne_zero hne), Int.ofNat_le.mpr hle, rfl⟩
  show 0 < if s.time = 0 then (unit : Int) * 4 else s.time
  split <;> omega

/-- **The score of a timeline sounds where the timeline has its keys**, in milliseconds as they
stand: nothing was rounded yet. -/
theorem onsets_eq_keyClocks (h : read name content version = .ok score) :
    ∃ contents, items content = .ok contents
      ∧ onsets (·.rate.num) 0 score.beats
        = EventSheet.moments ((keyClocks 0 contents).map Int.ofNat) := by
  have hlasts : ∀ b ∈ score.beats, 0 < b.rate.num := fun b hb => ((rates_of_read h).2 b hb).1
  obtain ⟨contents, m, ms, unit, hne, hitems, hmoments, hstart, hsettles, -, -, rfl⟩ :=
    exists_moments_of_read h
  refine ⟨contents, hitems, ?_⟩
  refine (pairwise_onsets hlasts).eq_of_mem_iff (EventSheet.pairwise_moments _) fun time => ?_
  have hsounds : time ∈ onsets (·.rate.num) m.start (((m :: ms).flatMap Press.beats).map
      (Span.toBeat unit hne)) ↔ _ := mem_onsets_beats hsettles
  rw [hstart, ← hmoments] at hsounds
  simp only [soundsAt_moments] at hsounds
  rw [EventSheet.mem_moments, List.mem_map, ← hmoments]
  exact hsounds

end Timeline

namespace EventSheet

/-! ## 3. The two roundings -/

section Roundings

variable {b : Beat}

/-- What a tempo makes of a millisecond, where the unit of the beats gave the tempo. -/
theorem tempo_mul_den (den : Int) : 60000 / den * den = 60000 - 60000 % den := by
  have hsplit := Int.mul_ediv_add_emod 60000 den
  rw [Int.mul_comm] at hsplit
  omega

/-- Rounding the tempo down makes no beat shorter. -/
theorem num_le_milliseconds (hnum : 0 ≤ b.rate.num) (hden : 0 < b.rate.den)
    (hle : b.rate.den ≤ 60000) : b.rate.num ≤ milliseconds (60000 / b.rate.den) b := by
  have hlt := Int.emod_lt_of_pos 60000 hden
  have hlost := Int.mul_nonneg hnum (Int.emod_nonneg 60000 hden.ne')
  rw [milliseconds, tempo_mul_den, Int.le_ediv_iff_mul_le (by omega), Int.mul_sub]
  omega

/-- **The two roundings cancel for a beat exactly when what the tempo lost of a minute, once for
every millisecond and once more, is less than a minute.** -/
theorem milliseconds_eq_iff (hnum : 0 ≤ b.rate.num) (hden : 0 < b.rate.den)
    (hle : b.rate.den ≤ 60000) :
    milliseconds (60000 / b.rate.den) b = b.rate.num
      ↔ (b.rate.num + 1) * (60000 % b.rate.den) < 60000 := by
  have hlonger := num_le_milliseconds hnum hden hle
  have hlt := Int.emod_lt_of_pos 60000 hden
  -- No beat gets shorter, so the length is kept where the beat does not get one longer.
  have hshort : milliseconds (60000 / b.rate.den) b < b.rate.num + 1
      ↔ 60000 * b.rate.num
        < (b.rate.num + 1) * 60000 - (b.rate.num + 1) * (60000 % b.rate.den) := by
    rw [milliseconds, tempo_mul_den, ← Int.mul_sub]
    exact Int.ediv_lt_iff_lt_mul (by omega)
  omega

end Roundings

/-! ## 4. The notes of the event sheet -/

/-- The times of the notes of an event sheet, in the order in which they stand. -/
def noteTimes (t : Text) : Except SheetError (List Int) := do
  let document ← (Json.read t).mapError .eventJson
  let fields ← sheetFields document
  let notes ← pressFields (Json.field "songNotes" fields)
  notes.mapM fun note => checkTime (Json.field "time" note)

/-- **An event sheet has its notes where the score sounds**, on a clock in whole milliseconds. -/
theorem noteTimes_write {score : Score} {name author transcriber : Text} {shift : Int}
    (hname : score.name = .string name) (hauthor : score.author = .string author)
    (htranscriber : score.transcriber = .string transcriber) (hbpm : 0 < score.bpm)
    (hrates : ∀ b ∈ score.beats, 0 ≤ b.rate.num ∧ 0 < b.rate.den)
    (hshift : Placement.transposition score layout = .ok shift) :
    ∃ text times, write score = .ok text ∧ noteTimes text = .ok times
      ∧ ∀ time, time ∈ times ↔ time ∈ onsets (milliseconds score.bpm) 0 score.beats := by
  obtain ⟨strokes, hplace, hstrokes, hdelay, hpresses⟩ := exists_strokes hbpm hrates hshift
  have htimes : ((pressesOf 0 strokes).map Press.fields).mapM
      (fun note => checkTime (Json.field "time" note)) = .ok ((pressesOf 0 strokes).map (·.time)) :=
    mapM_map_eq_pure fun p hp => checkTime_int (hpresses p hp).1
  refine ⟨ofPlacement score ⟨shift, strokes⟩, (pressesOf 0 strokes).map (·.time), ?_, ?_, ?_⟩
  · rw [write, hplace]
    rfl
  · have hplain := plain_document strokes hname hauthor htranscriber
    rw [noteTimes, ofPlacement, Json.read_render hplain]
    show (do
      let fields ← sheetFields (document score strokes)
      let notes ← pressFields (Json.field "songNotes" fields)
      notes.mapM fun note => checkTime (Json.field "time" note)) = _
    rw [sheetFields_document, ok_bind, pressFields_document, ok_bind, htimes]
  · intro time
    rw [List.mem_map, exists_press_iff hstrokes hdelay, ← List.mem_map, sounded, ← onsets,
      onsets_atPitch]

end EventSheet

namespace Timeline

variable {name content : Text} {score : Score}

/-- **The event sheet of a timeline has its notes where its beats begin**, each beat rounded twice,
**and that is where the timeline has its keys exactly when the roundings cancel for every beat ahead
of a sounding one.** -/
theorem noteTimes_exact {shift : Int} (hread : read name content version = .ok score)
    (hshift : Placement.transposition score EventSheet.layout = .ok shift) :
    ∃ contents text times, items content = .ok contents ∧ EventSheet.write score = .ok text
      ∧ EventSheet.noteTimes text = .ok times
      ∧ EventSheet.moments times = onsets (EventSheet.milliseconds score.bpm) 0 score.beats
      ∧ (EventSheet.moments times = EventSheet.moments ((keyClocks 0 contents).map Int.ofNat)
        ↔ AheadOfSound (fun b => (b.rate.num + 1) * (60000 % b.rate.den) < 60000) score.beats) := by
  obtain ⟨contents, hitems, hclocks⟩ := onsets_eq_keyClocks hread
  obtain ⟨hbpm, hrates⟩ := rates_of_read hread
  have hmetadata : score.name = .string name ∧ score.author = .string []
      ∧ score.transcriber = .string [] := by
    obtain ⟨-, m, ms, unit, hne, -, -, -, -, -, -, rfl⟩ := exists_moments_of_read hread
    exact ⟨rfl, rfl, rfl⟩
  obtain ⟨hname, hauthor, htranscriber⟩ := hmetadata
  obtain ⟨text, times, hwrite, htimes, hmem⟩ := EventSheet.noteTimes_write hname hauthor
    htranscriber hbpm (fun b hb => ⟨(hrates b hb).1.le, (hrates b hb).2.1⟩) hshift
  have hlonger : ∀ b ∈ score.beats, b.rate.num ≤ EventSheet.milliseconds score.bpm b := by
    intro b hb
    obtain ⟨hnum, hden, hle, hunit⟩ := hrates b hb
    rw [hunit]
    exact EventSheet.num_le_milliseconds hnum.le hden hle
  have honsets : EventSheet.moments times
      = onsets (EventSheet.milliseconds score.bpm) 0 score.beats := by
    have hlasts : ∀ b ∈ score.beats, 0 < EventSheet.milliseconds score.bpm b :=
      fun b hb => (hrates b hb).1.trans_le (hlonger b hb)
    refine (EventSheet.pairwise_moments times).eq_of_mem_iff (pairwise_onsets hlasts) fun time => ?_
    rw [EventSheet.mem_moments, hmem]
  refine ⟨contents, text, times, hitems, hwrite, htimes, honsets, ?_⟩
  rw [honsets, ← hclocks, onsets_eq_iff hlonger]
  refine aheadOfSound_congr fun b hb => ?_
  obtain ⟨hnum, hden, hle, hunit⟩ := hrates b hb
  rw [hunit]
  exact EventSheet.milliseconds_eq_iff hnum.le hden hle

/-- Two keys at one moment, and a unit of 7 ms, which does not divide a minute. -/
theorem noteTimes_exact_sample :
    let score : Score := {
      name := .string "s"
      bpm := 8571
      beats := [⟨⟨7, 7, by decide⟩, [0]⟩, ⟨⟨14, 7, by decide⟩, [4, 0]⟩,
        ⟨⟨28, 7, by decide⟩, [2]⟩] }
    read "s" "{C3}<7>{E3}{C3}<14>{D3}" version = .ok score
      ∧ ∃ contents text times, items "{C3}<7>{E3}{C3}<14>{D3}" = .ok contents
        ∧ EventSheet.write score = .ok text ∧ EventSheet.noteTimes text = .ok times
        ∧ EventSheet.moments times = [0, 7, 21]
        ∧ (EventSheet.moments times = EventSheet.moments ((keyClocks 0 contents).map Int.ofNat)
          ↔ AheadOfSound (fun b => (b.rate.num + 1) * (60000 % b.rate.den) < 60000)
            score.beats) := by
  intro score
  have hread : read "s" "{C3}<7>{E3}{C3}<14>{D3}" version = .ok score := by rfl
  have hshift : Placement.transposition score EventSheet.layout = .ok 0 := by rfl
  exact ⟨hread, noteTimes_exact hread hshift⟩

/-- Two presses, each held for 40000 ms. -/
def slow : Text := "{C3}<40000>{D3}<40000>"

/-- They are beats of one unit, at one unit to the minute. -/
def scoreOfSlow : Score where
  name := .string "s"
  bpm := 1
  beats := [⟨⟨40000, 40000, by decide⟩, [0]⟩, ⟨⟨40000, 40000, by decide⟩, [2]⟩]

/-- **Not every event sheet keeps the times of its timeline**: at one unit to the minute a unit of
40000 ms lasts a whole minute. -/
theorem noteTimes_not_kept : ¬∀ (name content : Text) (score : Score) (shift : Int),
    read name content version = .ok score →
    Placement.transposition score EventSheet.layout = .ok shift →
    ∃ contents text times, items content = .ok contents ∧ EventSheet.write score = .ok text
      ∧ EventSheet.noteTimes text = .ok times
      ∧ EventSheet.moments times
        = EventSheet.moments ((keyClocks 0 contents).map Int.ofNat) := by
  intro h
  obtain ⟨contents, text, times, hitems, hwrite, htimes, hkept⟩ :=
    h "s" slow scoreOfSlow 0 (by rfl) (by rfl)
  have hcontents : items slow = .ok [.key 0, .hold 40000 true, .key 2, .hold 40000 true] := by rfl
  have hnotes : (EventSheet.write scoreOfSlow).bind EventSheet.noteTimes = .ok [0, 60000] := by
    decide +kernel
  rw [hwrite, Except.bind, htimes] at hnotes
  rw [hcontents] at hitems
  cases hitems
  cases hnotes
  exact absurd hkept (by decide)

end Timeline

end SongSheet
