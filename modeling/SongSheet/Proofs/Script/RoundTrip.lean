import SongSheet.Proofs.EventSheet.Chords
import SongSheet.Proofs.Script.Call
import SongSheet.Proofs.Timeline.Beats

/-!
# Scripts — what is read of a written one

A script is written for the strokes of a score and read as the beats of its moments. Two theorems
say what that does to the score. **Every score with a transposition comes back as what it sounds on
a clock in milliseconds**, the chords of one moment as one (`read_gathered`): that is all that can
be kept of beats which may be shorter than a millisecond. And **what was read of a timeline comes
back as it was** (`read_rewritten`), so long as its unit divides a minute, for only then is the
tempo exact: reading a timeline once is enough to bring it to a form that writing keeps.
-/

set_option autoImplicit false

namespace SongSheet.Script

open EventSheet (milliseconds atPitch delay_eq milliseconds_nonneg)
open Timeline (playerLayout Span spanOf spanSoundings momentsFrom pressed IsShortest scoreOf)

/-! ## 1. The script of strokes -/

variable {score : Score} {name : Text}

/-- A call is read as the timeline that it plays. -/
theorem read_call {content : Text} (hname : ∀ c ∈ name, c.isSurrogate = false)
    (hcontent : ∀ c ∈ content, c.isSurrogate = false)
    (h : Timeline.read name content Timeline.version = .ok score) :
    read (call (.string name) content) = .ok score := by
  rw [read, readCalls_call hname hcontent, ok_bind]
  have hread : ofArguments [.text name, .text content, .int 2] = .ok score := h
  rw [List.getLast?_singleton]
  dsimp only
  rw [hread]
  rfl

/-- A stroke that the player can play. -/
def Playable (s : Stroke) : Prop := (∀ key ∈ s.keys, key < playerLayout.keyCount) ∧ 0 ≤ s.delay

/-- **A script of strokes is read as the beats of their moments.** -/
theorem read_strokes {strokes : List Stroke} (hname : ∀ c ∈ name, c.isSurrogate = false)
    (h : ∀ s ∈ strokes, Playable s)
    (hscore : Timeline.ofSpans name
        ((momentsFrom (pressed 0 []) (strokes.map spanOf)).flatMap Timeline.Press.beats)
      = .ok score) :
    read (call (.string name) (Timeline.write Timeline.labels strokes)) = .ok score := by
  have hascii : ∀ c ∈ Timeline.write Timeline.labels strokes, c.isSurrogate = false :=
    fun c hc => isSurrogate_of_ascii (Timeline.val_lt_of_mem_write hc)
  obtain ⟨m, ms, hms, -, -, hbeats⟩ :=
    Timeline.exists_moments ((strokes.map spanOf).flatMap Span.items)
  rw [← hms, Timeline.moments_items] at hbeats
  refine read_call hname hascii ?_
  rw [Timeline.read, if_neg (by decide), Timeline.items_write h, ok_bind, hbeats]
  exact hscore

/-- A score with a transposition is written as the script of its strokes. -/
theorem write_eq_ok {shift : Int} (hname : score.name = .string name) (hbpm : 0 < score.bpm)
    (hrates : ∀ b ∈ score.beats, 0 ≤ b.rate.num ∧ 0 < b.rate.den)
    (hshift : Placement.transposition score playerLayout = .ok shift) :
    ∃ strokes, write none score = .ok (call (.string name) (Timeline.write Timeline.labels strokes))
      ∧ List.Forall₂ (Placement.IsStrokeOf score playerLayout shift) score.beats strokes
      ∧ ∀ s ∈ strokes, Playable s := by
  obtain ⟨strokes, hplace, hstrokes⟩ := Placement.place_eq_ok hbpm hshift
  refine ⟨strokes, ?_, hstrokes, ?_⟩
  · rw [write, layoutFor, ok_bind, hplace, ok_bind, ofPlacement, hname]
    rfl
  · intro s hs
    obtain ⟨b, hb, hstroke⟩ := exists_related_of_mem hstrokes hs
    obtain ⟨hnum, hden⟩ := hrates b hb
    refine ⟨hstroke.key_lt, ?_⟩
    rw [hstroke.delay, delay_eq hbpm hden]
    exact milliseconds_nonneg hbpm hnum hden

/-! ## 2. What a score sounds -/

theorem keys_spanOf {shift : Int} {b : Beat} {s : Stroke}
    (h : Placement.IsStrokeOf score playerLayout shift b s) :
    (spanOf s).keys = (atPitch score.keyNote shift b).tones :=
  h.map_keys

theorem time_spanOf {shift : Int} {b : Beat} {s : Stroke} (hbpm : 0 < score.bpm)
    (hrate : 0 ≤ b.rate.num ∧ 0 < b.rate.den)
    (h : Placement.IsStrokeOf score playerLayout shift b s) :
    ((spanOf s).time : Int) = milliseconds score.bpm b := by
  have hforwards := milliseconds_nonneg hbpm hrate.1 hrate.2
  show ((s.delay.toNat : Nat) : Int) = _
  rw [h.delay, delay_eq hbpm hrate.2]
  omega

/-- Strokes sound what their beats do. -/
theorem soundings_eq {shift : Int} {bs : List Beat} {strokes : List Stroke} (hbpm : 0 < score.bpm)
    (hrates : ∀ b ∈ bs, 0 ≤ b.rate.num ∧ 0 < b.rate.den)
    (h : List.Forall₂ (Placement.IsStrokeOf score playerLayout shift) bs strokes) (clock : Nat) :
    soundings (milliseconds score.bpm) clock (bs.map (atPitch score.keyNote shift))
      = spanSoundings clock (strokes.map spanOf) := by
  induction h generalizing clock with
  | nil => rfl
  | @cons b s bs strokes hs _ ih =>
    have hkeys := keys_spanOf hs
    have htime : milliseconds score.bpm (atPitch score.keyNote shift b) = (spanOf s).time :=
      (time_spanOf hbpm (hrates b (by simp)) hs).symm
    have hrest := ih (fun c hc => hrates c (by simp [hc])) (clock + (spanOf s).time)
    rw [Int.natCast_add] at hrest
    rw [List.map_cons, List.map_cons, soundings, spanSoundings, ← hkeys, htime, hrest]
    simp only [List.isEmpty_iff]

/-- **Every score that can be transposed is written, and what is read sounds as it does on a clock
in milliseconds**: at every onset, in order, stand the tones of all chords that start there, each
once. Some chord has to last for a millisecond and no more than a minute, or no tempo could be read.
-/
theorem read_gathered {shift : Int} (hname : score.name = .string name)
    (hsurrogates : ∀ c ∈ name, c.isSurrogate = false) (hbpm : 0 < score.bpm)
    (hrates : ∀ b ∈ score.beats, 0 ≤ b.rate.num ∧ 0 < b.rate.den)
    (hshift : Placement.transposition score playerLayout = .ok shift)
    (hlasts : ∃ b ∈ score.beats, b.tones ≠ [] ∧ 1 ≤ milliseconds score.bpm b
      ∧ milliseconds score.bpm b ≤ 60000) :
    ∃ text result unit, write none score = .ok text ∧ read text = .ok result
      ∧ result.name = .string name ∧ result.keyNote = 0
      ∧ soundings (·.rate.num) 0 result.beats = gathered
        (soundings (milliseconds score.bpm) 0 (score.beats.map (atPitch score.keyNote shift)))
      ∧ (∀ b ∈ result.beats, b.rate.den = unit)
      ∧ IsLeast {n | ∃ b ∈ result.beats, b.rate.num = n} unit := by
  obtain ⟨strokes, hwrite, hstrokes, hplayable⟩ := write_eq_ok hname hbpm hrates hshift
  obtain ⟨m, ms, hms, hstart, hsettles, -⟩ :=
    Timeline.exists_moments ((strokes.map spanOf).flatMap Span.items)
  rw [Timeline.moments_items] at hms
  obtain ⟨b, hb, htones, hfast, hslow⟩ := hlasts
  -- The chord that lasts is a beat of what is read, so there is a shortest one.
  obtain ⟨s, hs, hstroke⟩ := exists_related_of_mem hstrokes.flip hb
  have htime := time_spanOf hbpm (hrates b hb) hstroke
  have hkeys : (spanOf s).keys ≠ [] := by
    rw [keys_spanOf hstroke]
    simpa [atPitch] using htones
  obtain ⟨c, hc, hctime⟩ := Timeline.exists_time_of_mem (List.mem_map_of_mem hs) hkeys (by omega)
    (pressed 0 [])
  rw [hms] at hc
  obtain ⟨unit, hshortest, hle⟩ := Timeline.exists_isShortest hc (by omega)
  have hunit : unit ≠ 0 := hshortest.pos.ne'
  refine ⟨_, scoreOf name ((m :: ms).flatMap Timeline.Press.beats) unit hunit, unit, hwrite,
    read_strokes hsurrogates hplayable ?_, rfl, rfl, ?_, ?_, ?_⟩
  · rw [hms]
    exact Timeline.ofSpans_eq_ok_iff.mpr ⟨unit, hunit, hshortest, by omega, rfl⟩
  · have hsounding := @Timeline.soundings_beats unit hunit m ms hsettles
    rw [← hms, Timeline.chords_momentsFrom, hms, hstart] at hsounding
    exact hsounding.trans (congrArg gathered (soundings_eq hbpm hrates hstrokes 0).symm)
  · intro b hb
    obtain ⟨s, -, rfl⟩ := List.mem_map.mp hb
    rfl
  · exact Timeline.isLeast_num hshortest

/-- A rest in front, two chords that round to one moment with a tone in common, and a quotation mark
in the name. -/
theorem read_gathered_sample :
    let score : Score := {
      name := .string "\""
      keyNote := 14
      bpm := 120
      beats := [⟨⟨1, 1, by decide⟩, []⟩, ⟨⟨1, 601, by decide⟩, [0]⟩, ⟨⟨2, 6, by decide⟩, [2, 0]⟩,
        ⟨⟨1, 2, by decide⟩, [5]⟩] }
    ∃ text result unit, write none score = .ok text ∧ read text = .ok result
      ∧ result.name = .string "\"" ∧ result.keyNote = 0
      ∧ soundings (·.rate.num) 0 result.beats = [(500, [14, 16]), (666, [19])]
      ∧ (∀ b ∈ result.beats, b.rate.den = unit)
      ∧ IsLeast {n | ∃ b ∈ result.beats, b.rate.num = n} unit := by
  intro score
  have hshift : Placement.transposition score playerLayout = .ok 0 := by rfl
  exact read_gathered rfl (by decide) (by decide) (by decide) hshift
    ⟨⟨⟨1, 2, by decide⟩, [5]⟩, by decide, by decide, by decide, by decide⟩

/-! ## 3. What was read of a timeline -/

section Lasting

variable {unit : Nat} {timed : List Span}

/-- A beat of a timeline as the score has it: it lasts, and its keys sound once. -/
def lasting (unit : Nat) (s : Span) : Span :=
  ⟨if s.time = 0 then unit * 4 else s.time, s.keys.eraseDups⟩

theorem lasting_pos (h : unit ≠ 0) (s : Span) : 0 < (lasting unit s).time := by
  show 0 < if s.time = 0 then unit * 4 else s.time
  split <;> omega

theorem rate_toBeat (h : unit ≠ 0) (s : Span) :
    (s.toBeat unit h).rate.num = (lasting unit s).time ∧ (s.toBeat unit h).rate.den = unit := by
  refine ⟨?_, rfl⟩
  show (if s.time = 0 then (unit : Int) * 4 else (s.time : Int))
    = ((if s.time = 0 then unit * 4 else s.time : Nat) : Int)
  split <;> simp

/-- The score has its beats as they are. -/
theorem toBeat_lasting (h : unit ≠ 0) (s : Span) :
    (lasting unit s).toBeat unit h = s.toBeat unit h := by
  have htones : s.keys.eraseDups.eraseDups = s.keys.eraseDups :=
    eraseDups_eq_self (nodup_eraseDups s.keys)
  simp only [Span.toBeat, lasting, htones]
  by_cases hlasts : s.time = 0
  · simp [hlasts]
  · simp [hlasts]

theorem isShortest_lasting (h : IsShortest timed unit) :
    IsShortest (timed.map (lasting unit)) unit where
  pos := h.pos
  mem := by
    obtain ⟨s, hs, htime⟩ := h.mem
    refine ⟨_, List.mem_map_of_mem hs, ?_⟩
    have hlasts : s.time ≠ 0 := htime ▸ h.pos.ne'
    exact (if_neg hlasts).trans htime
  least := by
    intro _ hmem _
    obtain ⟨s, hs, rfl⟩ := List.mem_map.mp hmem
    show unit ≤ if s.time = 0 then unit * 4 else s.time
    split
    case isTrue => omega
    case isFalse hlasts => exact h.least s hs (Nat.pos_of_ne_zero hlasts)

theorem isChain_lasting (h : timed.IsChain Timeline.Apart) :
    (timed.map (lasting unit)).IsChain Timeline.Apart := by
  have hkeys : ∀ s : Span, s.keys ≠ [] → (lasting unit s).keys ≠ [] := by
    intro s hs
    obtain ⟨key, keys, hcons⟩ := List.exists_cons_of_ne_nil hs
    show s.keys.eraseDups ≠ []
    rw [hcons, List.eraseDups_cons]
    exact List.cons_ne_nil _ _
  rw [List.isChain_map]
  exact h.imp fun a b hab => hab.imp (hkeys a) (hkeys b)

/-- The strokes of a timeline's score are its beats, where the unit divides a minute: only then does
the tempo give the lengths back. -/
theorem spanOf_eq_lasting (h : unit ≠ 0) (hdvd : unit ∣ 60000) {s : Span} {stroke : Stroke}
    (hstroke : Placement.IsStrokeOf (scoreOf name timed unit h) playerLayout 0 (s.toBeat unit h)
      stroke) : lasting unit s = spanOf stroke := by
  have hunit : 0 < unit := Nat.pos_of_ne_zero h
  have htempo : (60000 / (unit : Int)) * unit = 60000 :=
    Int.ediv_mul_cancel (Int.natCast_dvd_natCast.mpr hdvd)
  have hbpm : 0 < (scoreOf name timed unit h).bpm :=
    Int.natCast_pos.mpr (Nat.div_pos (Nat.le_of_dvd (by decide) hdvd) hunit)
  have htime : ((spanOf stroke).time : Int) = (lasting unit s).time := by
    obtain ⟨hnum, hden⟩ := rate_toBeat h s
    rw [time_spanOf hbpm ⟨by omega, by omega⟩ hstroke, milliseconds, hnum, hden]
    show 60000 * ((lasting unit s).time : Int) / (60000 / (unit : Int) * unit) = _
    rw [htempo, Int.mul_ediv_cancel_left _ (by decide)]
  have hkeys : (spanOf stroke).keys = (lasting unit s).keys := by
    rw [keys_spanOf hstroke]
    show (s.keys.eraseDups.map (· + 0 + 0)) = s.keys.eraseDups
    simp
  show Span.mk (lasting unit s).time (lasting unit s).keys
    = Span.mk (spanOf stroke).time (spanOf stroke).keys
  rw [← Int.ofNat_inj.mp htime, hkeys]

/-- The lasting beats make the same score. -/
theorem ofSpans_lasting (h : unit ≠ 0) (hshortest : IsShortest timed unit) (hle : unit ≤ 60000) :
    Timeline.ofSpans name (timed.map (lasting unit)) = .ok (scoreOf name timed unit h) := by
  refine Timeline.ofSpans_eq_ok_iff.mpr ⟨unit, h, isShortest_lasting hshortest, hle, ?_⟩
  rw [scoreOf, scoreOf, List.map_map]
  simp only [Function.comp_def, toBeat_lasting]

/-- The beats that a timeline is read as: their shortest is no longer than a minute, and no two in a
row are rests. -/
theorem exists_timed_of_read {content : Text}
    (h : Timeline.read name content Timeline.version = .ok score) :
    ∃ timed unit, ∃ hne : unit ≠ 0, IsShortest timed unit ∧ unit ≤ 60000
      ∧ timed.IsChain Timeline.Apart ∧ score = scoreOf name timed unit hne := by
  obtain ⟨-, m, ms, unit, hne, -, -, -, hsettles, hshortest, hle, hscore⟩ :=
    Timeline.exists_moments_of_read h
  exact ⟨_, unit, hne, hshortest, hle, Timeline.isChain_beats hsettles, hscore⟩

/-- **The score of a timeline is written as the strokes of its beats**, if its tones are the
player's and its unit divides a minute. -/
theorem exists_strokes_lasting (h : unit ≠ 0) (hdvd : unit ∣ 60000)
    (htones : ∀ b ∈ (scoreOf name timed unit h).beats, ∀ tone ∈ b.tones,
      tone ∈ playerLayout.pitches) :
    ∃ strokes, write none (scoreOf name timed unit h)
        = .ok (call (.string name) (Timeline.write Timeline.labels strokes))
      ∧ (∀ s ∈ strokes, Playable s) ∧ strokes.map spanOf = timed.map (lasting unit) := by
  have hfits : Placement.Fits (scoreOf name timed unit h) playerLayout 0 := by
    intro b hb tone htone
    obtain ⟨key, hkey, hpitch⟩ := KeyLayout.mem_pitches.mp (htones b hb tone htone)
    refine ⟨key, hkey, ?_⟩
    rw [hpitch]
    exact ((Int.add_zero _).trans (Int.add_zero _)).symm
  have hunit : 0 < unit := Nat.pos_of_ne_zero h
  have hbpm : 0 < (scoreOf name timed unit h).bpm :=
    Int.natCast_pos.mpr (Nat.div_pos (Nat.le_of_dvd (by decide) hdvd) hunit)
  have hrates : ∀ b ∈ timed.map (Span.toBeat unit h), 0 ≤ b.rate.num ∧ 0 < b.rate.den := by
    intro b hb
    obtain ⟨s, -, rfl⟩ := List.mem_map.mp hb
    obtain ⟨hnum, hden⟩ := rate_toBeat h s
    exact ⟨by omega, by omega⟩
  obtain ⟨strokes, hwrite, hstrokes, hplayable⟩ :=
    write_eq_ok rfl hbpm hrates (Placement.transposition_eq_zero (by decide) hfits)
  refine ⟨strokes, hwrite, hplayable, ?_⟩
  have hall := (List.forall₂_map_left_iff.mp hstrokes).imp
    fun s stroke hs => spanOf_eq_lasting h hdvd hs
  rw [← List.forall₂_eq_eq_eq, List.forall₂_map_left_iff, List.forall₂_map_right_iff]
  exact hall.flip.imp fun stroke s hs => hs.symm

end Lasting

/-- **What was read of a timeline is written and read back as it was**, if its tones are the
player's and its unit divides a minute: with the same tempo, the same lengths and the same tones, in
order. -/
theorem read_rewritten {content : Text} {unit : Int}
    (hsurrogates : ∀ c ∈ name, c.isSurrogate = false)
    (hread : Timeline.read name content Timeline.version = .ok score)
    (htones : ∀ b ∈ score.beats, ∀ tone ∈ b.tones, tone ∈ playerLayout.pitches)
    (hunit : IsLeast {n | ∃ b ∈ score.beats, b.rate.num = n} unit) (hdvd : unit ∣ 60000) :
    ∃ text, write none score = .ok text ∧ read text = .ok score := by
  obtain ⟨timed, shortest, hne, hshortest, hle, hapart, rfl⟩ := exists_timed_of_read hread
  have heq : unit = shortest := hunit.unique (Timeline.isLeast_num hshortest)
  have hdvd : shortest ∣ 60000 := by
    rw [heq] at hdvd
    exact Int.natCast_dvd_natCast.mp hdvd
  obtain ⟨strokes, hwrite, hplayable, hspanOf⟩ := exists_strokes_lasting hne hdvd htones
  -- The strokes are the beats that were read, which alternate and last.
  have hlasting : timed.map (lasting shortest) ≠ [] := by
    obtain ⟨s, hs, -⟩ := hshortest.mem
    exact List.ne_nil_of_mem (List.mem_map_of_mem hs)
  have hlasts : ∀ s ∈ timed.map (lasting shortest), 0 < s.time := by
    intro _ hs
    obtain ⟨s, -, rfl⟩ := List.mem_map.mp hs
    exact lasting_pos hne s
  have hagain := Timeline.beats_momentsFrom hlasting hlasts (isChain_lasting hapart)
  refine ⟨_, hwrite, read_strokes hsurrogates hplayable ?_⟩
  rw [hspanOf, hagain]
  exact ofSpans_lasting hne hshortest hle

/-- A rest in front, keys that are released early, one key twice at one moment, and a last press
that takes no time. -/
theorem read_rewritten_sample :
    let score : Score := {
      name := .string "\""
      bpm := 300
      beats := [⟨⟨300, 200, by decide⟩, []⟩, ⟨⟨200, 200, by decide⟩, [0, 4]⟩,
        ⟨⟨300, 200, by decide⟩, []⟩, ⟨⟨800, 200, by decide⟩, [0]⟩] }
    Timeline.read "\"" "300{C3}{E3}(200)500{C3}{C3}" Timeline.version = .ok score
      ∧ ∃ text, write none score = .ok text ∧ read text = .ok score := by
  intro score
  have hread : Timeline.read "\"" "300{C3}{E3}(200)500{C3}{C3}" Timeline.version = .ok score := by
    rfl
  have hleast : ∀ b ∈ score.beats, 200 ≤ b.rate.num := by decide
  have hunit : IsLeast {n | ∃ b ∈ score.beats, b.rate.num = n} 200 := by
    refine ⟨⟨⟨⟨200, 200, by decide⟩, [0, 4]⟩, by decide, rfl⟩, ?_⟩
    rintro _ ⟨b, hb, rfl⟩
    exact hleast b hb
  exact ⟨hread, read_rewritten (by decide) hread (by decide) hunit (by decide)⟩

end SongSheet.Script
