import Mathlib.Order.Bounds.Basic
import SongSheet.Proofs.Soundings
import SongSheet.Proofs.Timeline.Moments
import SongSheet.Proofs.Traversal

/-!
# Timelines — what is heard of moments

The beats of a moment are its keys and, if they are released early, a rest. Two things are read off
them. On the clock, **what sounds is the keys of the moments where they start** (`soundings_beats`),
and the moments of keys and times are those keys *gathered by onset* (`chords_momentsFrom`). Beat by
beat, **keys and times come back as they were** (`beats_momentsFrom`) if every one of them lasts and
no two in a row are rests (`Apart`); the beats of a timeline are such, but for the last of them,
which may not last at all.
-/

set_option autoImplicit false

namespace SongSheet.Timeline

/-! ## 1. The shortest beat -/

/-- The shortest time of those that last at all. -/
structure IsShortest (timed : List Span) (unit : Nat) : Prop where
  pos : 0 < unit
  mem : ∃ s ∈ timed, s.time = unit
  least : ∀ s ∈ timed, 0 < s.time → unit ≤ s.time

theorem isShortest_iff {timed : List Span} {unit : Nat} :
    ((timed.map (·.time)).filter (0 < ·)).min? = some unit ↔ IsShortest timed unit := by
  rw [List.min?_eq_some_iff]
  simp only [List.mem_filter, List.mem_map, decide_eq_true_eq]
  constructor
  · rintro ⟨⟨hmem, hpos⟩, hleast⟩
    exact ⟨hpos, hmem, fun s hs hlasts => hleast s.time ⟨⟨s, hs, rfl⟩, hlasts⟩⟩
  · rintro ⟨hpos, hmem, hleast⟩
    refine ⟨⟨hmem, hpos⟩, ?_⟩
    rintro _ ⟨⟨s, hs, rfl⟩, hlasts⟩
    exact hleast s hs hlasts

theorem IsShortest.unique {timed : List Span} {unit other : Nat} (h : IsShortest timed unit)
    (hother : IsShortest timed other) : unit = other :=
  Option.some.inj ((isShortest_iff.mpr h).symm.trans (isShortest_iff.mpr hother))

theorem exists_isShortest {timed : List Span} {s : Span} (hs : s ∈ timed) (hlasts : 0 < s.time) :
    ∃ unit, IsShortest timed unit ∧ unit ≤ s.time := by
  have hne : (timed.map (·.time)).filter (0 < ·) ≠ [] :=
    List.ne_nil_of_mem (List.mem_filter.mpr ⟨List.mem_map_of_mem hs, decide_eq_true hlasts⟩)
  obtain ⟨unit, hunit⟩ := Option.isSome_iff_exists.mp (List.isSome_min?_of_ne_nil hne)
  have hshortest := isShortest_iff.mp hunit
  exact ⟨unit, hshortest, hshortest.least s hs hlasts⟩

/-- The score of times in a unit. -/
def scoreOf (name : Text) (timed : List Span) (unit : Nat) (h : unit ≠ 0) : Score :=
  { name := .string name, bpm := 60000 / unit, beats := timed.map (Span.toBeat unit h) }

/-- Times that do not last make no score. -/
theorem ofSpans_of_none {name : Text} {timed : List Span} (h : ∀ s ∈ timed, s.time = 0) :
    ofSpans name timed = .error .timelineEmpty := by
  rw [ofSpans]
  split
  case h_1 => rfl
  case h_2 unit hunit =>
    obtain ⟨hpos, ⟨s, hs, htime⟩, -⟩ := isShortest_iff.mp hunit
    have hnone := h s hs
    omega

/-- **What times make**: a score, unless the shortest is longer than a minute. -/
theorem ofSpans_of_isShortest {name : Text} {timed : List Span} {unit : Nat}
    (h : IsShortest timed unit) :
    ofSpans name timed = if unit ≤ 60000 then .ok (scoreOf name timed unit h.pos.ne')
      else .error .bpmRange := by
  rw [ofSpans]
  split
  case h_1 hnone =>
    rw [isShortest_iff.mpr h] at hnone
    cases hnone
  case h_2 other hother =>
    cases h.unique (isShortest_iff.mp hother)
    have hquotient : Score.msPerMinute / (unit : Int) = ((60000 / unit : Nat) : Int) := rfl
    by_cases hle : unit ≤ 60000
    · have hbpm : Score.checkBpm (.int (Score.msPerMinute / unit)) = .ok (60000 / unit) := by
        have hpos : 0 < 60000 / unit := Nat.div_pos hle h.pos
        refine if_neg ?_
        rw [hquotient]
        omega
      rw [hbpm, if_pos hle]
      rfl
    · have hbpm : Score.checkBpm (.int (Score.msPerMinute / unit)) = .error .bpmRange := by
        refine if_pos ?_
        rw [hquotient, Nat.div_eq_of_lt (by omega)]
        exact Int.le_refl 0
      rw [hbpm, if_neg hle]
      rfl

/-- Either no time lasts, or one of those that do is the shortest. -/
theorem none_or_isShortest (timed : List Span) :
    (∀ s ∈ timed, s.time = 0) ∨ ∃ unit, IsShortest timed unit := by
  by_cases h : ∀ s ∈ timed, s.time = 0
  · exact .inl h
  · simp only [not_forall] at h
    obtain ⟨s, hs, hlasts⟩ := h
    obtain ⟨unit, hshortest, -⟩ := exists_isShortest hs (Nat.pos_of_ne_zero hlasts)
    exact .inr ⟨unit, hshortest⟩

/-- **Times make a score** if the shortest that lasts is no longer than a minute. -/
theorem ofSpans_eq_ok_iff {name : Text} {timed : List Span} {score : Score} :
    ofSpans name timed = .ok score
      ↔ ∃ unit, ∃ h : unit ≠ 0, IsShortest timed unit ∧ unit ≤ 60000
        ∧ score = scoreOf name timed unit h := by
  constructor
  · intro h
    rcases none_or_isShortest timed with hnone | ⟨unit, hshortest⟩
    · rw [ofSpans_of_none hnone] at h
      cases h
    · rw [ofSpans_of_isShortest hshortest] at h
      split_ifs at h with hle
      cases h
      exact ⟨unit, hshortest.pos.ne', hshortest, hle, rfl⟩
  · rintro ⟨unit, hne, hshortest, hle, rfl⟩
    rw [ofSpans_of_isShortest hshortest, if_pos hle]

/-- The moments that a timeline is read as: their shortest beat is no longer than a minute. -/
theorem exists_moments_of_read {name content : Text} {score : Score}
    (h : read name content version = .ok score) :
    ∃ contents m ms unit, ∃ hne : unit ≠ 0, items content = .ok contents
      ∧ moments (presses contents) = m :: ms ∧ m.start = 0 ∧ (m :: ms).IsChain Settles
      ∧ IsShortest ((m :: ms).flatMap Press.beats) unit ∧ unit ≤ 60000
      ∧ score = scoreOf name ((m :: ms).flatMap Press.beats) unit hne := by
  rw [read, if_neg (by decide)] at h
  obtain ⟨contents, hitems, h⟩ := bind_eq_ok h
  obtain ⟨m, ms, hmoments, hstart, hsettles, hbeats⟩ := exists_moments contents
  rw [hbeats] at h
  obtain ⟨unit, hne, hshortest, hle, hscore⟩ := ofSpans_eq_ok_iff.mp h
  exact ⟨contents, m, ms, unit, hne, hitems, hmoments, hstart, hsettles, hshortest, hle, hscore⟩

section Num

variable {unit : Nat} {hne : unit ≠ 0}

theorem num_toBeat {s : Span} (h : 0 < s.time) : (s.toBeat unit hne).rate.num = s.time :=
  if_neg (by omega)

/-- The shortest time is the shortest beat: a beat that did not last gets more. -/
theorem isLeast_num {timed : List Span} (h : IsShortest timed unit) :
    IsLeast {n : Int | ∃ b ∈ timed.map (Span.toBeat unit hne), b.rate.num = n} unit := by
  constructor
  · obtain ⟨s, hs, htime⟩ := h.mem
    refine ⟨_, List.mem_map_of_mem hs, ?_⟩
    rw [num_toBeat (htime ▸ h.pos), htime]
  · rintro _ ⟨b, hb, rfl⟩
    obtain ⟨s, hs, rfl⟩ := List.mem_map.mp hb
    by_cases hlasts : s.time = 0
    · have hnum : (s.toBeat unit hne).rate.num = unit * 4 := if_pos hlasts
      rw [hnum]
      omega
    · have hpos := Nat.pos_of_ne_zero hlasts
      rw [num_toBeat hpos]
      exact Int.ofNat_le.mpr (h.least s hs hpos)

end Num

/-! ## 2. What sounds -/

/-- The chord of a moment and its start; nothing where it has no keys. -/
def Press.chord (m : Press) : List (Int × List Int) :=
  if m.keys = [] then [] else [((m.start : Int), m.keys)]

variable {unit : Nat} {hne : unit ≠ 0}

theorem soundings_toBeat (clock : Int) (s : Span) (rest : List Beat) :
    soundings (·.rate.num) clock (s.toBeat unit hne :: rest)
      = (if s.keys = [] then [] else [(clock, s.keys.eraseDups)])
        ++ soundings (·.rate.num) (clock + (s.toBeat unit hne).rate.num) rest := by
  rw [soundings]
  show (if s.keys.eraseDups.isEmpty then _ else _) = _
  cases hkeys : s.keys with
  | nil => rfl
  | cons key keys =>
    rw [List.eraseDups_cons, List.isEmpty_cons, if_neg (by simp), if_neg (by simp),
      List.singleton_append]
    show (clock, s.keys.eraseDups) :: _ = _
    rw [hkeys, List.eraseDups_cons]

/-- A moment sounds its keys, and the clock goes on by its wait if it waits at all. -/
theorem soundings_moment {m : Press} {rest : List Beat} (h : 0 < m.wait ∨ rest = []) :
    soundings (·.rate.num) m.start (m.beats.map (Span.toBeat unit hne) ++ rest)
      = (m.chord.map fun (time, keys) => (time, keys.eraseDups))
        ++ soundings (·.rate.num) (m.start + m.wait : Nat) rest := by
  have hchord : (m.chord.map fun (time, keys) => (time, keys.eraseDups))
      = if m.keys = [] then [] else [((m.start : Int), m.keys.eraseDups)] := by
    rw [Press.chord]
    split <;> rfl
  rw [hchord, Press.beats]
  split_ifs with hreleased hkeys hkeys
  · exact absurd hkeys hreleased.1
  · obtain ⟨-, hhold, hwait⟩ := hreleased
    have hclock :
        (m.start : Int) + m.hold + (m.wait - m.hold : Nat) = (m.start + m.wait : Nat) := by
      omega
    rw [List.map_cons, List.map_cons, List.map_nil, List.cons_append, soundings_toBeat,
      List.cons_append, soundings_toBeat, num_toBeat hhold,
      num_toBeat (s := ⟨m.wait - m.hold, []⟩) (Nat.sub_pos_of_lt hwait), if_neg hkeys, if_pos rfl,
      hclock]
    rfl
  all_goals
    rw [List.map_cons, List.map_nil, List.singleton_append, soundings_toBeat]
    rcases h with hwait | rfl
    · rw [num_toBeat hwait]
      simp [hkeys]
    · simp [hkeys, soundings]

/-- **What sounds is the keys of the moments**, each where it starts. -/
theorem soundings_beats {m : Press} {ms : List Press} (h : (m :: ms).IsChain Settles) :
    soundings (·.rate.num) m.start
        (((m :: ms).flatMap Press.beats).map (Span.toBeat unit hne))
      = ((m :: ms).flatMap Press.chord).map fun (time, keys) => (time, keys.eraseDups) := by
  rw [List.flatMap_cons, List.map_append, List.flatMap_cons, List.map_append]
  induction ms generalizing m with
  | nil => exact soundings_moment (.inr rfl)
  | cons next ms ih =>
    obtain ⟨⟨hwait, hstart, -⟩, hrest⟩ := List.isChain_cons_cons.mp h
    rw [soundings_moment (.inl hwait), ← hstart, List.flatMap_cons, List.map_append, ih hrest,
      List.flatMap_cons, List.map_append]

/-- What keys and times sound from a start on. -/
def spanSoundings (clock : Nat) : List Span → List (Int × List Int)
  | [] => []
  | s :: rest =>
    if s.keys = [] then spanSoundings (clock + s.time) rest
    else ((clock : Int), s.keys) :: spanSoundings (clock + s.time) rest

theorem clock_le_of_mem_spanSoundings {timed : List Span} {clock : Nat} {c : Int × List Int}
    (h : c ∈ spanSoundings clock timed) : (clock : Int) ≤ c.1 := by
  induction timed generalizing clock with
  | nil => cases h
  | cons s timed ih =>
    have hlater : c ∈ spanSoundings (clock + s.time) timed → (clock : Int) ≤ c.1 := by
      intro hc
      have hle := ih hc
      omega
    rw [spanSoundings] at h
    split at h
    · exact hlater h
    · rcases List.mem_cons.mp h with rfl | h
      · exact Int.le_refl _
      · exact hlater h

/-- A chord joins the moment that sounds at its start. -/
theorem gathered_chord (m : Press) (keys : List Int) (sounding : List (Int × List Int)) :
    gathered (m.chord ++ ((m.start : Int), keys) :: sounding)
      = gathered (((m.start : Int), m.keys ++ keys) :: sounding) := by
  rw [Press.chord]
  split
  case isTrue hkeys => rw [hkeys, List.nil_append, List.nil_append]
  case isFalse => exact gathered_join _ _ _ _

/-- **The moments of keys and times are what they sound, gathered by onset.** -/
theorem chords_momentsFrom (timed : List Span) (m : Press) :
    ((momentsFrom m timed).flatMap Press.chord).map (fun (time, keys) => (time, keys.eraseDups))
      = gathered (m.chord ++ spanSoundings (m.start + m.wait) timed) := by
  have halone : ∀ (m : Press) (sounding : List (Int × List Int)),
      (∀ c ∈ sounding, c.1 ≠ m.start) →
      gathered (m.chord ++ sounding)
        = (m.chord.map fun (time, keys) => (time, keys.eraseDups)) ++ gathered sounding := by
    intro m sounding hlater
    rw [Press.chord]
    split
    · rfl
    · exact gathered_cons hlater
  induction timed generalizing m with
  | nil =>
    rw [momentsFrom, spanSoundings, halone m [] nofun, List.flatMap_singleton]
    exact (List.append_nil _).symm
  | cons s timed ih =>
    rw [spanSoundings]
    by_cases hrest : s.keys = []
    · rw [momentsFrom_rest hrest, if_pos hrest, ih, Nat.add_assoc]
      rfl
    · have hchord : ∀ (start : Nat) (keys : List Int), keys ≠ [] →
          Press.chord ⟨start, keys, s.time, s.time⟩ = [((start : Int), keys)] := by
        intro start keys hkeys
        exact if_neg hkeys
      rw [if_neg hrest]
      by_cases hjoins : m.wait = 0
      · rw [momentsFrom_join hrest hjoins, ih,
          hchord _ _ (List.append_ne_nil_of_right_ne_nil _ hrest), hjoins,
          Nat.add_zero, gathered_chord]
        rfl
      · have hlater : ∀ c ∈ spanSoundings (m.start + m.wait) (s :: timed), c.1 ≠ m.start := by
          intro c hc
          have hle := clock_le_of_mem_spanSoundings hc
          omega
        rw [spanSoundings, if_neg hrest] at hlater
        rw [momentsFrom_open hrest hjoins, List.flatMap_cons, List.map_append, ih,
          hchord _ _ hrest, halone m _ hlater]
        rfl

/-! ## 3. Beat by beat -/

/-- Two spans that are not both rests. -/
def Apart (a b : Span) : Prop := a.keys ≠ [] ∨ b.keys ≠ []

theorem beats_of_held {m : Press} (h : ¬m.hold < m.wait) : m.beats = [⟨m.wait, m.keys⟩] :=
  if_neg fun hreleased => h hreleased.2.2

theorem beats_of_released {m : Press} (hkeys : m.keys ≠ []) (hhold : 0 < m.hold)
    (hwait : m.hold < m.wait) : m.beats = [⟨m.hold, m.keys⟩, ⟨m.wait - m.hold, []⟩] :=
  if_pos ⟨hkeys, hhold, hwait⟩

/-- A moment that a rest may follow is held for as long as it waits. -/
theorem hold_eq_wait {m : Press} {s : Span} {timed : List Span} (hrest : s.keys = [])
    (hhold : m.keys ≠ [] → 0 < m.hold ∧ m.hold ≤ m.wait)
    (hapart : (m.beats ++ s :: timed).IsChain Apart) : m.keys ≠ [] ∧ m.hold = m.wait := by
  by_cases hreleased : m.keys ≠ [] ∧ 0 < m.hold ∧ m.hold < m.wait
  · obtain ⟨hkeys, hpos, hlt⟩ := hreleased
    rw [beats_of_released hkeys hpos hlt] at hapart
    obtain ⟨-, htail⟩ := List.isChain_cons_cons.mp hapart
    rcases (List.isChain_cons_cons.mp htail).1 with h | h
    · exact absurd rfl h
    · exact absurd hrest h
  · have hbeats : m.beats = [⟨m.wait, m.keys⟩] := if_neg hreleased
    rw [hbeats] at hapart
    have hkeys : m.keys ≠ [] :=
      (List.isChain_cons_cons.mp hapart).1.resolve_right fun h => h hrest
    obtain ⟨hpos, hle⟩ := hhold hkeys
    refine ⟨hkeys, ?_⟩
    by_contra hne
    exact hreleased ⟨hkeys, hpos, by omega⟩

/-- Keys and times after a moment come back as they are. The moment has to wait, or the next keys
would join it, and its keys are held, or a rest after it would make them longer. -/
theorem beats_momentsFrom_append {timed : List Span} {m : Press} (hwait : 0 < m.wait)
    (hhold : m.keys ≠ [] → 0 < m.hold ∧ m.hold ≤ m.wait) (htimed : ∀ s ∈ timed, 0 < s.time)
    (hapart : (m.beats ++ timed).IsChain Apart) :
    (momentsFrom m timed).flatMap Press.beats = m.beats ++ timed := by
  induction timed generalizing m with
  | nil => rfl
  | cons s timed ih =>
    have hlasts := htimed s (by simp)
    have hothers : ∀ r ∈ timed, 0 < r.time := fun r hr => htimed r (by simp [hr])
    by_cases hrest : s.keys = []
    · obtain ⟨hkeys, heq⟩ := hold_eq_wait hrest hhold hapart
      have hlonger : Press.beats { m with wait := m.wait + s.time } = m.beats ++ [s] := by
        have hreleased := beats_of_released (m := { m with wait := m.wait + s.time }) hkeys
          (hhold hkeys).1 (by simp only; omega)
        have htime : m.wait + s.time - m.wait = s.time := by omega
        rw [hreleased, beats_of_held (by omega)]
        simp only [heq, htime, ← hrest, List.singleton_append]
      rw [momentsFrom_rest hrest, ih (Nat.add_pos_left hwait _) ?_ hothers ?_, hlonger,
        List.append_assoc]
      · rfl
      · intro _
        exact ⟨(hhold hkeys).1, by simp only; omega⟩
      · rwa [hlonger, List.append_assoc]
    · have hchord : Press.beats ⟨m.start + m.wait, s.keys, s.time, s.time⟩ = [s] :=
        beats_of_held (Nat.lt_irrefl _)
      rw [momentsFrom_open hrest hwait.ne', List.flatMap_cons,
        ih hlasts (fun _ => ⟨hlasts, Nat.le_refl _⟩) hothers ?_, hchord]
      · rfl
      · rw [hchord]
        exact hapart.right_of_append

/-- **Keys and times come back as they were** if all of them last and no two in a row are rests. -/
theorem beats_momentsFrom {timed : List Span} (hne : timed ≠ []) (htimed : ∀ s ∈ timed, 0 < s.time)
    (hapart : timed.IsChain Apart) :
    (momentsFrom (pressed 0 []) timed).flatMap Press.beats = timed := by
  obtain ⟨s, rest, rfl⟩ := List.exists_cons_of_ne_nil hne
  have hlasts := htimed s (by simp)
  have hothers : ∀ r ∈ rest, 0 < r.time := fun r hr => htimed r (by simp [hr])
  by_cases hrest : s.keys = []
  · have hfirst : Press.beats { pressed 0 [] with wait := (pressed 0 []).wait + s.time } = [s] := by
      rw [Press.beats, if_neg fun h => h.1 rfl]
      simp only [pressed, Nat.zero_add, ← hrest]
    rw [momentsFrom_rest hrest, beats_momentsFrom_append (Nat.add_pos_right _ hlasts)
      (fun h => absurd rfl h) hothers, hfirst]
    · rfl
    · rwa [hfirst]
  · have hfirst : Press.beats ⟨0, s.keys, s.time, s.time⟩ = [s] := beats_of_held (Nat.lt_irrefl _)
    rw [momentsFrom_join hrest rfl]
    show (momentsFrom ⟨0, s.keys, s.time, s.time⟩ rest).flatMap Press.beats = s :: rest
    rw [beats_momentsFrom_append hlasts (fun _ => ⟨hlasts, Nat.le_refl _⟩) hothers, hfirst]
    · rfl
    · rwa [hfirst]

/-- The first beat of a moment has its keys. -/
theorem keys_head_beats {m : Press} {s : Span} (h : s ∈ m.beats.head?) : s.keys = m.keys := by
  rw [Press.beats] at h
  split at h
  · cases h
    rfl
  · cases h
    rfl

/-- **No two beats of moments in a row are rests.** -/
theorem isChain_beats {m : Press} {ms : List Press} (h : (m :: ms).IsChain Settles) :
    ((m :: ms).flatMap Press.beats).IsChain Apart := by
  have hone : ∀ m : Press, m.beats.IsChain Apart := by
    intro m
    rw [Press.beats]
    split
    case isTrue hreleased => exact .cons_cons (.inl hreleased.1) (.singleton _)
    case isFalse => exact .singleton _
  induction ms generalizing m with
  | nil =>
    rw [List.flatMap_singleton]
    exact hone m
  | cons next ms ih =>
    obtain ⟨⟨-, -, hkeys⟩, hrest⟩ := List.isChain_cons_cons.mp h
    have hne : next.beats ≠ [] := by
      rw [Press.beats]
      split <;> simp
    rw [List.flatMap_cons]
    refine (hone m).append (ih hrest) fun a _ b hb => .inr ?_
    rw [List.flatMap_cons, List.head?_append_of_ne_nil _ hne] at hb
    rwa [keys_head_beats hb]

/-- A moment with keys gives a beat for as long as they are held. -/
theorem exists_time_eq_hold {m : Press} (hkeys : m.keys ≠ []) (hpos : 0 < m.hold)
    (hle : m.hold ≤ m.wait) : ∃ b ∈ m.beats, b.time = m.hold := by
  rcases Nat.lt_or_eq_of_le hle with hlt | heq
  · rw [beats_of_released hkeys hpos hlt]
    exact ⟨_, List.mem_cons_self .., rfl⟩
  · rw [beats_of_held (by omega)]
    exact ⟨_, List.mem_cons_self .., heq.symm⟩

/-- Keys that are held stay a beat of that time, however long their moment goes on. -/
theorem exists_time_momentsFrom {m : Press} (hkeys : m.keys ≠ []) (hpos : 0 < m.hold)
    (hle : m.hold ≤ m.wait) (timed : List Span) :
    ∃ b ∈ (momentsFrom m timed).flatMap Press.beats, b.time = m.hold := by
  induction timed generalizing m with
  | nil =>
    obtain ⟨b, hb, htime⟩ := exists_time_eq_hold hkeys hpos hle
    exact ⟨b, List.mem_append_left _ hb, htime⟩
  | cons s timed ih =>
    by_cases hrest : s.keys = []
    · rw [momentsFrom_rest hrest]
      exact ih (m := { m with wait := m.wait + s.time }) hkeys hpos
        (hle.trans (Nat.le_add_right ..))
    · obtain ⟨b, hb, htime⟩ := exists_time_eq_hold hkeys hpos hle
      rw [momentsFrom_open hrest (by omega)]
      exact ⟨b, List.mem_append_left _ hb, htime⟩

/-- **A chord that lasts gives a beat of its time**, whatever comes before and after it. -/
theorem exists_time_of_mem {timed : List Span} {s : Span} (hs : s ∈ timed) (hkeys : s.keys ≠ [])
    (hlasts : 0 < s.time) (m : Press) :
    ∃ b ∈ (momentsFrom m timed).flatMap Press.beats, b.time = s.time := by
  induction timed generalizing m with
  | nil => cases hs
  | cons r timed ih =>
    by_cases hrest : r.keys = []
    · have hlater : s ∈ timed :=
        (List.mem_cons.mp hs).resolve_left fun heq => hkeys (heq ▸ hrest)
      rw [momentsFrom_rest hrest]
      exact ih hlater _
    · by_cases hjoins : m.wait = 0
      · rw [momentsFrom_join hrest hjoins]
        rcases List.mem_cons.mp hs with rfl | hlater
        · exact exists_time_momentsFrom (List.append_ne_nil_of_right_ne_nil _ hkeys) hlasts
            (Nat.le_refl _) timed
        · exact ih hlater _
      · rw [momentsFrom_open hrest hjoins]
        have hrestOf : ∃ b ∈ (momentsFrom ⟨m.start + m.wait, r.keys, r.time, r.time⟩ timed).flatMap
            Press.beats, b.time = s.time := by
          rcases List.mem_cons.mp hs with rfl | hlater
          · exact exists_time_momentsFrom hkeys hlasts (Nat.le_refl _) timed
          · exact ih hlater _
        obtain ⟨b, hb, htime⟩ := hrestOf
        exact ⟨b, List.mem_append_right _ hb, htime⟩

end SongSheet.Timeline
