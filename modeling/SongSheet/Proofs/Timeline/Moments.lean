import Mathlib.Data.List.Chain
import SongSheet.Proofs.Arrangement
import SongSheet.Proofs.Timeline.Items

/-!
# Timelines — the moments of the clock

The presses of a timeline stand on a clock: each starts where the one before it has waited
(`Follows`). Presses that start together are one moment, and as they are neighbours a moment is a
press that took in those after it for as long as nothing was waited for (`moments`). Said of
moments, a timeline's beats need no search for starts: **they are the spans of its moments, one
after the other** (`timedBeats_eq`), and **a moment waits for the next one, which has keys**
(`Settles`, `isChain_moments`).

For a timeline that was written as keys and times (`Span.items`), the moments are those times put
together: a time without keys prolongs the moment that goes on, keys join it as long as it lasts no
time, and otherwise open the next (`momentsFrom`, `moments_items`).
-/

set_option autoImplicit false

namespace SongSheet.Timeline

/-! ## 1. Presses on the clock -/

/-- A press starts where the one before it has waited. -/
def Follows (p q : Press) : Prop := q.start = p.start + p.wait

/-- **The presses of a timeline follow each other**, and all but the first have keys. -/
theorem pressesFrom_spec (items : List Item) (clock : Nat) (current : Press)
    (hclock : clock = current.start + current.wait) :
    ∃ p ps, pressesFrom clock current items = p :: ps ∧ p.start = current.start
      ∧ (current.keys ≠ [] → p.keys ≠ []) ∧ (p :: ps).IsChain Follows
      ∧ ∀ q ∈ ps, q.keys ≠ [] := by
  induction items generalizing clock current with
  | nil => exact ⟨current, [], rfl, rfl, id, .singleton _, nofun⟩
  | cons item items ih =>
    cases item with
    | key pitch =>
      obtain ⟨p, ps, hps, hstart, hkeys, hchain, hall⟩ :=
        ih clock { start := clock, keys := [pitch] } rfl
      have hp : p.keys ≠ [] := hkeys (by simp)
      rw [pressesFrom]
      simp only [hps]
      by_cases hidle : current.keys.isEmpty ∧ current.wait = 0
      · rw [if_pos hidle]
        obtain ⟨hsilent, hwait⟩ := hidle
        refine ⟨p, ps, rfl, ?_, fun _ => hp, hchain, hall⟩
        rw [hstart, hclock, hwait, Nat.add_zero]
      · rw [if_neg hidle]
        refine ⟨current, p :: ps, rfl, rfl, id, .cons_cons (hstart.trans hclock) hchain, ?_⟩
        intro q hq
        rcases List.mem_cons.mp hq with rfl | hq
        · exact hp
        · exact hall q hq
    | hold time waits =>
      exact ih _ { current with
        hold := current.hold + time, wait := current.wait + if waits then time else 0 }
        (by simp only; omega)
    | wait time =>
      exact ih _ { current with wait := current.wait + time } (by simp only; omega)

/-! ## 2. Moments -/

/-- A press that takes in one that starts with it. -/
def Press.join (p q : Press) : Press :=
  ⟨p.start, p.keys ++ q.keys, max p.wait q.wait, max p.hold q.hold⟩

/-- The moments of a press and those after it: it takes in the next ones as long as it waits for
nothing. -/
def momentsAfter (p : Press) : List Press → List Press
  | [] => [p]
  | q :: rest => if p.wait = 0 then momentsAfter (p.join q) rest else p :: momentsAfter q rest

theorem momentsAfter_join {p q : Press} (h : p.wait = 0) (ps : List Press) :
    momentsAfter p (q :: ps) = momentsAfter (p.join q) ps :=
  if_pos h

theorem momentsAfter_wait {p q : Press} (h : p.wait ≠ 0) (ps : List Press) :
    momentsAfter p (q :: ps) = p :: momentsAfter q ps :=
  if_neg h

/-- Presses go on behind two that joined as they did behind the second. -/
theorem Follows.join {p q : Press} {ps : List Press} (hq : Follows p q) (h : p.wait = 0)
    (hrest : (q :: ps).IsChain Follows) : (p.join q :: ps).IsChain Follows := by
  refine hrest.imp_head fun {r} hr => ?_
  show r.start = p.start + max p.wait q.wait
  rw [Follows] at hr hq
  rw [hr, hq, h, Nat.zero_max, Nat.add_zero]

/-- The moments of presses that follow each other. -/
def moments : List Press → List Press
  | [] => []
  | p :: ps => momentsAfter p ps

/-- The beats of a moment: its keys up to the next moment, or up to a rest if they are released
early. -/
def Press.beats (p : Press) : List Span :=
  if p.keys ≠ [] ∧ 0 < p.hold ∧ p.hold < p.wait then
    [⟨p.hold, p.keys⟩, ⟨p.wait - p.hold, []⟩]
  else [⟨p.wait, p.keys⟩]

/-- Presses at one moment as one press. -/
def together (start : Nat) (group : List Press) : Press :=
  ⟨start, group.flatMap (·.keys), (group.map (·.wait)).foldl max 0,
    (group.map (·.hold)).foldl max 0⟩

theorem spans_eq (start : Nat) (group : List Press) :
    spans group = (together start group).beats := by
  simp [spans, Press.beats, together]

theorem together_append (start : Nat) (group : List Press) (q : Press) :
    together start (group ++ [q]) = (together start group).join q := by
  simp [together, Press.join]

theorem together_singleton (q : Press) : together q.start [q] = q := by
  simp [together]

theorem start_le {p : Press} {ps : List Press} (h : (p :: ps).IsChain Follows) :
    ∀ q ∈ ps, p.start ≤ q.start := by
  induction ps generalizing p with
  | nil => exact nofun
  | cons q ps ih =>
    obtain ⟨hq, hrest⟩ := List.isChain_cons_cons.mp h
    have hle : p.start ≤ q.start := by
      rw [hq]
      exact Nat.le_add_right ..
    intro r hr
    rcases List.mem_cons.mp hr with rfl | hr
    · exact hle
    · exact hle.trans (ih hrest r hr)

theorem wait_together {start : Nat} {group : List Press} (h : ∀ r ∈ group, r.wait = 0) (p : Press) :
    (together start (group ++ [p])).wait = p.wait := by
  have hidle : (group.map (·.wait)).foldl max 0 = 0 := by
    induction group with
    | nil => rfl
    | cons r group ih =>
      rw [List.map_cons, List.foldl_cons, h r (by simp)]
      exact ih fun s hs => h s (by simp [hs])
  rw [together_append]
  show max ((group.map (·.wait)).foldl max 0) p.wait = p.wait
  rw [hidle, Nat.zero_max]

/-- The presses of one moment give its beats. -/
theorem timedBeats_append {start : Nat} {group rest : List Press} (hne : group ≠ [])
    (hgroup : ∀ r ∈ group, r.start = start) (hrest : ∀ r ∈ rest, r.start ≠ start) :
    timedBeats (group ++ rest) = (together start group).beats ++ timedBeats rest := by
  rw [← spans_eq, timedBeats, gatherBy_append hne hgroup hrest]
  exact List.flatMap_cons

/-- The beats of presses are those of the moments. The induction takes the presses one by one;
`group` holds those of the moment that have waited for nothing so far. -/
theorem timedBeats_group {start : Nat} {group : List Press} {p : Press} {ps : List Press}
    (hgroup : ∀ r ∈ group, r.start = start ∧ r.wait = 0) (hp : p.start = start)
    (hchain : (p :: ps).IsChain Follows) :
    timedBeats (group ++ p :: ps)
      = (momentsAfter (together start (group ++ [p])) ps).flatMap Press.beats := by
  have hrun : ∀ r ∈ group ++ [p], r.start = start := by
    intro r hr
    rcases List.mem_append.mp hr with hr | hr
    · exact (hgroup r hr).1
    · rw [List.mem_singleton.mp hr, hp]
  rw [List.append_cons]
  induction ps generalizing start group p with
  | nil => exact timedBeats_append (by simp) hrun nofun
  | cons q ps ih =>
    obtain ⟨hq, hrest⟩ := List.isChain_cons_cons.mp hchain
    have hwait : (together start (group ++ [p])).wait = p.wait :=
      wait_together (fun r hr => (hgroup r hr).2) p
    by_cases hjoins : p.wait = 0
    · have hstart : q.start = start := by rw [hq, hp, hjoins, Nat.add_zero]
      rw [momentsAfter_join (hwait.trans hjoins), ← together_append, List.append_cons]
      refine ih ?_ hstart hrest ?_
      · intro r hr
        rcases List.mem_append.mp hr with hr | hr
        · exact hgroup r hr
        · rw [List.mem_singleton.mp hr]
          exact ⟨hp, hjoins⟩
      · intro r hr
        rcases List.mem_append.mp hr with hr | hr
        · exact hrun r hr
        · rw [List.mem_singleton.mp hr, hstart]
    · -- The next moment starts later, so nothing of it is gathered here.
      have hlater : ∀ r ∈ q :: ps, r.start ≠ start := by
        intro r hr
        have hle : q.start ≤ r.start := by
          rcases List.mem_cons.mp hr with rfl | hr
          · exact Nat.le_refl _
          · exact start_le hrest r hr
        rw [Follows] at hq
        omega
      have hnone : ∀ r ∈ ([] : List Press), r.start = q.start ∧ r.wait = 0 := nofun
      have hnext := ih hnone rfl hrest (by simp)
      rw [List.nil_append, together_singleton] at hnext
      rw [momentsAfter_wait (hwait ▸ hjoins), timedBeats_append (by simp) hrun hlater,
        List.flatMap_cons]
      exact congrArg _ hnext

/-- **The beats of presses that follow each other are those of their moments.** -/
theorem timedBeats_eq {ps : List Press} (h : ps.IsChain Follows) :
    timedBeats ps = (moments ps).flatMap Press.beats := by
  cases ps with
  | nil => rfl
  | cons p ps =>
    have hbeats : timedBeats ([] ++ p :: ps)
        = (momentsAfter (together p.start ([] ++ [p])) ps).flatMap Press.beats :=
      timedBeats_group nofun rfl h
    rwa [List.nil_append, List.nil_append, together_singleton] at hbeats

/-- A moment waits for the next one, which has keys. -/
def Settles (p q : Press) : Prop := 0 < p.wait ∧ q.start = p.start + p.wait ∧ q.keys ≠ []

theorem momentsAfter_spec {p : Press} {ps : List Press} (hchain : (p :: ps).IsChain Follows)
    (hkeys : ∀ q ∈ ps, q.keys ≠ []) :
    ∃ m ms, momentsAfter p ps = m :: ms ∧ m.start = p.start ∧ (p.keys ≠ [] → m.keys ≠ [])
      ∧ (m :: ms).IsChain Settles := by
  induction ps generalizing p with
  | nil => exact ⟨p, [], rfl, rfl, id, .singleton _⟩
  | cons q ps ih =>
    obtain ⟨hq, hrest⟩ := List.isChain_cons_cons.mp hchain
    have hothers : ∀ r ∈ ps, r.keys ≠ [] := fun r hr => hkeys r (by simp [hr])
    by_cases hjoins : p.wait = 0
    · rw [momentsAfter_join hjoins]
      obtain ⟨m, ms, hms, hstart, hm, hsettles⟩ := ih (hq.join hjoins hrest) hothers
      refine ⟨m, ms, hms, hstart, fun hp => hm ?_, hsettles⟩
      exact List.append_ne_nil_of_left_ne_nil hp _
    · obtain ⟨m, ms, hms, hstart, hm, hsettles⟩ := ih hrest hothers
      rw [momentsAfter_wait hjoins, hms]
      refine ⟨p, m :: ms, rfl, rfl, id, .cons_cons ⟨by omega, ?_, hm (hkeys q (by simp))⟩ hsettles⟩
      rw [hstart, hq]

/-- **The beats of a timeline are those of moments**, from the start of the clock on. -/
theorem exists_moments (items : List Item) :
    ∃ m ms, moments (presses items) = m :: ms ∧ m.start = 0 ∧ (m :: ms).IsChain Settles
      ∧ timedBeats (presses items) = (m :: ms).flatMap Press.beats := by
  obtain ⟨p, ps, hps, hstart, -, hchain, hkeys⟩ :=
    pressesFrom_spec items 0 { start := 0 } rfl
  obtain ⟨m, ms, hms, hm, -, hsettles⟩ := momentsAfter_spec hchain hkeys
  have hpresses : presses items = p :: ps := hps
  have hmoments : moments (presses items) = m :: ms := by
    rw [hpresses]
    exact hms
  refine ⟨m, ms, hmoments, hm.trans hstart, hsettles, ?_⟩
  rw [← hmoments, hpresses]
  exact timedBeats_eq hchain

/-! ## 3. The moments of keys and times -/

/-- The moments of keys and times, from one that goes on. -/
def momentsFrom (m : Press) : List Span → List Press
  | [] => [m]
  | s :: rest =>
    if s.keys = [] then momentsFrom { m with wait := m.wait + s.time } rest
    else if m.wait = 0 then momentsFrom ⟨m.start, m.keys ++ s.keys, s.time, s.time⟩ rest
    else m :: momentsFrom ⟨m.start + m.wait, s.keys, s.time, s.time⟩ rest

section MomentsFrom

variable {m : Press} {s : Span} {timed : List Span}

theorem momentsFrom_rest (h : s.keys = []) :
    momentsFrom m (s :: timed) = momentsFrom { m with wait := m.wait + s.time } timed :=
  if_pos h

theorem momentsFrom_join (h : s.keys ≠ []) (hwait : m.wait = 0) :
    momentsFrom m (s :: timed)
      = momentsFrom ⟨m.start, m.keys ++ s.keys, s.time, s.time⟩ timed :=
  (if_neg h).trans (if_pos hwait)

theorem momentsFrom_open (h : s.keys ≠ []) (hwait : m.wait ≠ 0) :
    momentsFrom m (s :: timed)
      = m :: momentsFrom ⟨m.start + m.wait, s.keys, s.time, s.time⟩ timed :=
  (if_neg h).trans (if_neg hwait)

end MomentsFrom

/-- A press that waits for nothing, with the keys of one moment. -/
def pressed (start : Nat) (keys : List Int) : Press := { start, keys }

theorem pressed_nil_join (q : Press) : (pressed q.start []).join q = q := by
  simp [pressed, Press.join]

/-- A first press that waits for nothing and has no keys is the same as none. -/
theorem momentsAfter_pressed_nil {q : Press} (ps : List Press) :
    momentsAfter (pressed q.start []) (q :: ps) = momentsAfter q ps := by
  rw [momentsAfter_join rfl, pressed_nil_join]

/-- Keys that are pressed at once join the moment, however they are spread over presses. -/
theorem momentsAfter_keys (clock : Nat) (more keys own : List Int) (tail : List Item) :
    ∃ keys' own', keys' ++ own' = keys ++ own ++ more
      ∧ momentsAfter (pressed clock keys) (pressesFrom clock (pressed clock own)
          (more.map .key ++ tail))
        = momentsAfter (pressed clock keys') (pressesFrom clock (pressed clock own') tail) := by
  induction more generalizing keys own with
  | nil => exact ⟨keys, own, (List.append_nil _).symm, rfl⟩
  | cons pitch more ih =>
    obtain ⟨keys', own', happend, hmoments⟩ := ih (keys ++ own) [pitch]
    refine ⟨keys', own', by simpa using happend, Eq.trans ?_ hmoments⟩
    rw [List.map_cons, List.cons_append, pressesFrom]
    by_cases hsilent : own = []
    · rw [if_pos ⟨by simp [pressed, hsilent], rfl⟩, hsilent, List.append_nil]
      rfl
    · rw [if_neg (by simpa [pressed] using hsilent), momentsAfter_join rfl]
      rfl

theorem pressesFrom_hold (clock time : Nat) (keys : List Int) (tail : List Item) :
    pressesFrom clock (pressed clock keys) ((if time = 0 then [] else [.hold time true]) ++ tail)
      = pressesFrom (clock + time) ⟨clock, keys, time, time⟩ tail := by
  by_cases hzero : time = 0
  · rw [if_pos hzero, hzero]
    rfl
  · rw [if_neg hzero, List.singleton_append, pressesFrom]
    simp only [pressed, if_true, Nat.zero_add]

/-- Keys that are held for a time join a moment that has waited for nothing. -/
theorem momentsAfter_chord (clock time : Nat) (more keys own : List Int) (tail : List Item) :
    ∃ keys' own', keys' ++ own' = keys ++ own ++ more
      ∧ momentsAfter (pressed clock keys) (pressesFrom clock (pressed clock own)
          (more.map .key ++ ((if time = 0 then [] else [.hold time true]) ++ tail)))
        = momentsAfter (pressed clock keys')
          (pressesFrom (clock + time) ⟨clock, own', time, time⟩ tail) := by
  obtain ⟨keys', own', happend, hmoments⟩ := momentsAfter_keys clock more keys own
    ((if time = 0 then [] else [.hold time true]) ++ tail)
  exact ⟨keys', own', happend, hmoments.trans (by rw [pressesFrom_hold])⟩

/-- Keys open a moment where the one before has waited. -/
theorem momentsAfter_open {start clock wait hold : Nat} {keys own : List Int} {pitch : Int}
    {tail : List Item} (hwait : wait ≠ 0) :
    momentsAfter (pressed start keys) (pressesFrom clock ⟨start, own, wait, hold⟩
        (.key pitch :: tail))
      = ⟨start, keys ++ own, wait, hold⟩ :: momentsAfter (pressed clock [])
        (pressesFrom clock (pressed clock [pitch]) tail) := by
  have hjoin : (pressed start keys).join ⟨start, own, wait, hold⟩
      = ⟨start, keys ++ own, wait, hold⟩ := by
    simp [pressed, Press.join]
  obtain ⟨q, qs, hqs, hstart, -⟩ :=
    pressesFrom_spec tail clock (pressed clock [pitch]) rfl
  have hclock : q.start = clock := hstart
  have hnext : pressesFrom clock { start := clock, keys := [pitch] } tail = q :: qs := hqs
  rw [hqs, ← hclock, momentsAfter_pressed_nil, hclock, pressesFrom]
  simp only [hwait, and_false, if_false, hnext]
  rw [momentsAfter_join rfl, hjoin, momentsAfter_wait hwait]

/-- The items of keys and times make their moments. -/
theorem momentsAfter_items (timed : List Span) {start wait hold : Nat} {keys own : List Int}
    (hhold : hold ≤ wait) :
    momentsAfter (pressed start keys)
        (pressesFrom (start + wait) ⟨start, own, wait, hold⟩ (timed.flatMap Span.items))
      = momentsFrom ⟨start, keys ++ own, wait, hold⟩ timed := by
  induction timed generalizing start wait hold keys own with
  | nil =>
    show [(pressed start keys).join ⟨start, own, wait, hold⟩] = [⟨start, keys ++ own, wait, hold⟩]
    simp [pressed, Press.join]
  | cons s timed ih =>
    rw [List.flatMap_cons, Span.items]
    by_cases hrest : s.keys = []
    · rw [momentsFrom_rest hrest, if_pos (by simpa using hrest), List.singleton_append, pressesFrom,
        Nat.add_assoc]
      exact ih (hhold.trans (Nat.le_add_right ..))
    · rw [if_neg (by simpa using hrest), List.append_assoc]
      by_cases hjoins : wait = 0
      · have hidle : hold = 0 := by omega
        obtain ⟨keys', own', happend, hmoments⟩ :=
          momentsAfter_chord start s.time s.keys keys own (timed.flatMap Span.items)
        rw [momentsFrom_join hrest hjoins, hjoins, hidle, Nat.add_zero]
        refine hmoments.trans ?_
        rw [ih (Nat.le_refl _), happend]
      · obtain ⟨pitch, more, hmore⟩ := List.exists_cons_of_ne_nil hrest
        obtain ⟨keys', own', happend, hmoments⟩ :=
          momentsAfter_chord (start + wait) s.time more [] [pitch] (timed.flatMap Span.items)
        rw [momentsFrom_open hrest hjoins, hmore, List.map_cons, List.cons_append,
          momentsAfter_open hjoins, hmoments, ih (Nat.le_refl _), happend]
        rfl

/-- **A timeline of keys and times has their moments.** -/
theorem moments_items (timed : List Span) :
    moments (presses (timed.flatMap Span.items)) = momentsFrom (pressed 0 []) timed := by
  obtain ⟨q, qs, hqs, hstart, -⟩ :=
    pressesFrom_spec (timed.flatMap Span.items) 0 (pressed 0 []) rfl
  have hclock : q.start = 0 := hstart
  have hmoments : momentsAfter (pressed 0 []) (q :: qs) = momentsFrom (pressed 0 []) timed := by
    rw [← hqs]
    exact momentsAfter_items timed (Nat.le_refl 0)
  have hpresses : presses (timed.flatMap Span.items) = q :: qs := hqs
  rw [hpresses, ← hmoments, ← hclock, momentsAfter_pressed_nil]
  rfl

end SongSheet.Timeline
