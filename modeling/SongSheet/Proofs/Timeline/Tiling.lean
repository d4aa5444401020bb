import Mathlib.Algebra.GroupWithZero.Nat
import SongSheet.Proofs.Timeline.Grammar
import SongSheet.Proofs.Timeline.Retiming

/-!
# Timelines — the beats tile the clock

What a timeline sounds can be said without its presses. Every item stands at a clock, the time of
the items before it. The keys at one clock are a chord, the holds at one clock say how long it is
held, and it lasts up to the next clock that has keys, or up to the end; ahead of the first there
may be a rest. **Those are the beats of the timeline** (`tiling`, `timedBeats_presses`).

The presses are the way from the one to the other. A press starts where its keys stand, and a hold
stands where its press starts, as it stands behind a key (`HoldsFrom`); so what the presses at one
time have, gathered, is what the items at that time say (`keys_pressAt_pressesFrom`,
`hold_pressAt_pressesFrom`). A moment is the presses at its start (`pressAt_of_mem`), and it waits
for the next one. No time is lost on the way (`sum_wait_pressesFrom`, `sum_wait_momentsAfter`).
-/

set_option autoImplicit false

namespace SongSheet.Timeline

/-! ## 1. Items on the clock -/

namespace Item

/-- How far the clock goes on with an item. -/
def time : Item → Nat
  | key _ => 0
  | hold time waits => if waits then time else 0
  | wait time => time

/-- The pitch of a key. -/
def pitch? : Item → Option Int
  | key pitch => some pitch
  | _ => none

/-- For how long an item holds keys. -/
def held : Item → Nat
  | hold time _ => time
  | _ => 0

end Item

/-- All the time of items. -/
def total (contents : List Item) : Nat := (contents.map Item.time).sum

/-- The items that stand at a time, from a clock on. -/
def standing (time clock : Nat) : List Item → List Item
  | [] => []
  | item :: rest =>
    if clock = time then item :: standing time (clock + item.time) rest
    else standing time (clock + item.time) rest

/-- The pitches of keys, as they stand. -/
def pitches (contents : List Item) : List Int := contents.filterMap Item.pitch?

/-- The longest of holds. -/
def longest (contents : List Item) : Nat := (contents.map Item.held).foldr max 0

/-- The clocks at which there are keys, each once. -/
def clocks (contents : List Item) : List Nat := (keyClocks 0 contents).eraseDups

section Clock

variable {clock time : Nat} {item : Item} {rest contents : List Item}

theorem total_cons : total (item :: rest) = item.time + total rest := List.sum_cons

theorem pitches_standing_cons : pitches (standing time clock (item :: rest))
    = (if clock = time then item.pitch?.toList else [])
      ++ pitches (standing time (clock + item.time) rest) := by
  rw [standing]
  split
  · rw [pitches, List.filterMap_cons]
    cases item.pitch? <;> rfl
  · rfl

theorem longest_standing_cons : longest (standing time clock (item :: rest))
    = max (if clock = time then item.held else 0)
      (longest (standing time (clock + item.time) rest)) := by
  rw [standing]
  split
  · rfl
  · exact (Nat.zero_max _).symm

theorem pitches_standing_silent (h : item.pitch? = none) :
    pitches (standing time clock (item :: rest))
      = pitches (standing time (clock + item.time) rest) := by
  rw [pitches_standing_cons, h, Option.toList_none, ite_self, List.nil_append]

theorem longest_standing_loose (h : item.held = 0) :
    longest (standing time clock (item :: rest))
      = longest (standing time (clock + item.time) rest) := by
  rw [longest_standing_cons, h, ite_self, Nat.zero_max]

theorem keyClocks_cons : keyClocks clock (item :: rest)
    = (if item.isKey then [clock] else []) ++ keyClocks (clock + item.time) rest := by
  cases item <;> rfl

/-- The clock of a key is the time of all that stands before it. -/
theorem mem_keyClocks : time ∈ keyClocks clock contents
    ↔ ∃ before pitch after, contents = before ++ .key pitch :: after
      ∧ clock + total before = time := by
  induction contents generalizing clock with
  | nil => simp [keyClocks]
  | cons item contents ih =>
    rw [keyClocks_cons, List.mem_append, ih]
    constructor
    · rintro (hfirst | ⟨before, pitch, after, rfl, htime⟩)
      · cases item with
        | key pitch => exact ⟨[], pitch, contents, rfl, (List.mem_singleton.mp hfirst).symm⟩
        | hold time waits => cases hfirst
        | wait time => cases hfirst
      · refine ⟨item :: before, pitch, after, rfl, ?_⟩
        rw [total_cons, ← Nat.add_assoc]
        exact htime
    · rintro ⟨before, pitch, after, hsplit, htime⟩
      cases before with
      | nil =>
        cases hsplit
        exact .inl (List.mem_singleton.mpr htime.symm)
      | cons first before =>
        obtain ⟨rfl, hrest⟩ := List.cons.inj hsplit
        rw [total_cons, ← Nat.add_assoc] at htime
        exact .inr ⟨before, pitch, after, hrest, htime⟩

theorem mem_clocks : time ∈ clocks contents
    ↔ ∃ before pitch after, contents = before ++ .key pitch :: after ∧ total before = time := by
  rw [clocks, List.mem_eraseDups, mem_keyClocks]
  simp only [Nat.zero_add]

theorem pairwise_keyClocks : (keyClocks clock contents).Pairwise (· ≤ ·) := by
  induction contents generalizing clock with
  | nil => exact .nil
  | cons item contents ih =>
    rw [keyClocks_cons]
    split
    · refine .cons (fun time htime => ?_) ih
      obtain ⟨before, pitch, after, -, rfl⟩ := mem_keyClocks.mp htime
      omega
    · exact ih

/-- **The clock never goes back**, so the clocks of the keys are in order. -/
theorem pairwise_clocks : (clocks contents).Pairwise (· < ·) := by
  have hle : (clocks contents).Pairwise (· ≤ ·) :=
    pairwise_keyClocks.sublist (eraseDups_sublist _)
  exact (hle.and (nodup_eraseDups _)).imp fun h => Nat.lt_of_le_of_ne h.1 h.2

end Clock

/-! ## 2. The presses at a time -/

/-- The presses that start at a time, as one. -/
def pressAt (time : Nat) (ps : List Press) : Press := together time (ps.filter (·.start = time))

theorem Press.join_assoc (p q r : Press) : (p.join q).join r = p.join (q.join r) := by
  simp only [Press.join, List.append_assoc, Nat.max_assoc]

theorem together_cons {start : Nat} {p : Press} (h : p.start = start) (group : List Press) :
    together start (p :: group) = p.join (together start group) := by
  have hmax : ∀ (n : Nat) (ns : List Nat), (n :: ns).foldl max 0 = max n (ns.foldl max 0) := by
    intro n ns
    rw [List.foldl_cons, Nat.max_comm, List.foldl_assoc]
  simp only [together, Press.join, List.flatMap_cons, List.map_cons, hmax, h]

section PressAt

variable {time : Nat} {p : Press} {ps : List Press}

theorem pressAt_here (h : p.start = time) : pressAt time (p :: ps) = p.join (pressAt time ps) := by
  have hfilter : (p :: ps).filter (·.start = time) = p :: ps.filter (·.start = time) :=
    List.filter_cons_of_pos (decide_eq_true h)
  rw [pressAt, hfilter, together_cons h]
  rfl

theorem pressAt_elsewhere (h : p.start ≠ time) : pressAt time (p :: ps) = pressAt time ps := by
  have hfilter : (p :: ps).filter (·.start = time) = ps.filter (·.start = time) :=
    List.filter_cons_of_neg (by simpa using h)
  rw [pressAt, hfilter]
  rfl

theorem keys_pressAt_cons : (pressAt time (p :: ps)).keys
    = (if p.start = time then p.keys else []) ++ (pressAt time ps).keys := by
  by_cases h : p.start = time
  · rw [pressAt_here h, if_pos h]
    rfl
  · rw [pressAt_elsewhere h, if_neg h, List.nil_append]

theorem hold_pressAt_cons : (pressAt time (p :: ps)).hold
    = max (if p.start = time then p.hold else 0) (pressAt time ps).hold := by
  by_cases h : p.start = time
  · rw [pressAt_here h, if_pos h]
    rfl
  · rw [pressAt_elsewhere h, if_neg h, Nat.zero_max]

end PressAt

/-- The presses at a time have the keys that stand there. -/
theorem keys_pressAt_pressesFrom {time : Nat} (contents : List Item) (clock : Nat)
    (current : Press) : (pressAt time (pressesFrom clock current contents)).keys
      = (if current.start = time then current.keys else [])
        ++ pitches (standing time clock contents) := by
  induction contents generalizing clock current with
  | nil =>
    rw [pressesFrom, keys_pressAt_cons]
    rfl
  | cons item contents ih =>
    cases item with
    | key pitch =>
      rw [pressesFrom, pitches_standing_cons]
      by_cases hidle : current.keys.isEmpty ∧ current.wait = 0
      · rw [if_pos hidle, ih, List.isEmpty_iff.mp hidle.1, ite_self, List.nil_append]
        rfl
      · rw [if_neg hidle, keys_pressAt_cons, ih]
        rfl
    | hold length waits =>
      rw [pressesFrom, ih, pitches_standing_silent rfl]
      rfl
    | wait length =>
      rw [pressesFrom, ih, pitches_standing_silent rfl]
      rfl

/-- The press that goes on while items are read: a hold may follow only where it starts. -/
structure Ready (held : Bool) (clock : Nat) (current : Press) : Prop where
  silent : current.keys = [] → current.hold = 0
  fresh : held = true → current.start = clock ∧ current.hold = 0 ∧ current.keys ≠ []

/-- The presses at a time hold for as long as the holds that stand there. -/
theorem hold_pressAt_pressesFrom {time : Nat} (contents : List Item) {held : Bool} {clock : Nat}
    {current : Press} (hholds : HoldsFrom held contents) (hready : Ready held clock current) :
    (pressAt time (pressesFrom clock current contents)).hold
      = max (if current.start = time then current.hold else 0)
        (longest (standing time clock contents)) := by
  induction contents generalizing held clock current with
  | nil =>
    rw [pressesFrom, hold_pressAt_cons]
    rfl
  | cons item contents ih =>
    cases item with
    | key pitch =>
      have hnext : (pressAt time (pressesFrom clock { start := clock, keys := [pitch] }
          contents)).hold = longest (standing time clock contents) := by
        have hkey : Ready true clock { start := clock, keys := [pitch] } :=
          ⟨fun _ => rfl, fun _ => ⟨rfl, rfl, List.cons_ne_nil _ _⟩⟩
        rw [ih hholds hkey, ite_self, Nat.zero_max]
      rw [pressesFrom, longest_standing_loose rfl]
      by_cases hidle : current.keys.isEmpty ∧ current.wait = 0
      · -- A press that is dropped has no keys, and so no hold is lost with it.
        rw [if_pos hidle, hnext, hready.silent (List.isEmpty_iff.mp hidle.1), ite_self,
          Nat.zero_max]
        rfl
      · rw [if_neg hidle, hold_pressAt_cons, hnext]
        rfl
    | hold length waits =>
      obtain ⟨hheld, hrest⟩ := hholds
      -- Right behind its key, the press has started here and nothing holds it yet.
      obtain ⟨hstart, hnone, hkeys⟩ := hready.fresh hheld
      have hgoes : ∀ wait, Ready false (clock + wait) { current with
          hold := current.hold + length, wait := current.wait + wait } :=
        fun wait => ⟨fun h => absurd h hkeys, fun h => absurd h Bool.false_ne_true⟩
      rw [pressesFrom, ih hrest (hgoes _), longest_standing_cons, hnone, ite_self, Nat.zero_max,
        Nat.zero_add, hstart]
      rfl
    | wait length =>
      have hgoes : Ready false (clock + length) { current with wait := current.wait + length } :=
        ⟨hready.silent, fun h => absurd h Bool.false_ne_true⟩
      rw [pressesFrom, ih hholds hgoes, longest_standing_loose rfl]
      rfl

/-- The presses wait for all the time that there is. -/
theorem sum_wait_pressesFrom (contents : List Item) (clock : Nat) (current : Press) :
    ((pressesFrom clock current contents).map (·.wait)).sum = current.wait + total contents := by
  induction contents generalizing clock current with
  | nil => rfl
  | cons item contents ih =>
    rw [total_cons]
    cases item with
    | key pitch =>
      rw [pressesFrom, Item.time, Nat.zero_add]
      split
      case isTrue hidle => rw [ih, hidle.2]
      case isFalse => rw [List.map_cons, List.sum_cons, ih, Nat.zero_add]
    | hold length waits =>
      rw [pressesFrom, ih, Nat.add_assoc]
      rfl
    | wait length =>
      rw [pressesFrom, ih, Nat.add_assoc]
      rfl

/-! ## 3. The moments -/

/-- No moment starts before the first press. -/
theorem start_le_of_mem_momentsAfter {p m : Press} {ps : List Press}
    (h : (p :: ps).IsChain Follows) (hm : m ∈ momentsAfter p ps) : p.start ≤ m.start := by
  induction ps generalizing p with
  | nil =>
    cases List.mem_singleton.mp hm
    exact Nat.le_refl _
  | cons q ps ih =>
    obtain ⟨hq, hrest⟩ := List.isChain_cons_cons.mp h
    by_cases hjoins : p.wait = 0
    · rw [momentsAfter_join hjoins] at hm
      exact ih (p := p.join q) (hq.join hjoins hrest) hm
    · rw [momentsAfter_wait hjoins] at hm
      rcases List.mem_cons.mp hm with rfl | hm
      · exact Nat.le_refl _
      · have hle := ih hrest hm
        rw [Follows] at hq
        omega

/-- **A moment is the presses at its start.** -/
theorem pressAt_of_mem {p m : Press} {ps : List Press} (h : (p :: ps).IsChain Follows)
    (hm : m ∈ momentsAfter p ps) : pressAt m.start (p :: ps) = m := by
  have halone : ∀ {p : Press} {ps : List Press}, (∀ r ∈ ps, r.start ≠ p.start) →
      pressAt p.start (p :: ps) = p := by
    intro p ps hothers
    have hnone : ps.filter (·.start = p.start) = [] :=
      List.filter_eq_nil_iff.mpr fun r hr => by simpa using hothers r hr
    rw [pressAt_here rfl, pressAt, hnone]
    simp [Press.join, together]
  induction ps generalizing p with
  | nil =>
    cases List.mem_singleton.mp hm
    exact halone (List.forall_mem_nil _)
  | cons q ps ih =>
    obtain ⟨hq, hrest⟩ := List.isChain_cons_cons.mp h
    by_cases hjoins : p.wait = 0
    · rw [momentsAfter_join hjoins] at hm
      have hjoined := ih (hq.join hjoins hrest) hm
      have hstart : q.start = p.start := by rw [hq, hjoins, Nat.add_zero]
      refine Eq.trans ?_ hjoined
      -- The two presses start at one time, so both are there or neither is.
      by_cases hhere : p.start = m.start
      · rw [pressAt_here hhere, pressAt_here (hstart.trans hhere),
          pressAt_here (p := p.join q) hhere, Press.join_assoc]
      · rw [pressAt_elsewhere hhere, pressAt_elsewhere (hstart ▸ hhere),
          pressAt_elsewhere (p := p.join q) hhere]
    · rw [momentsAfter_wait hjoins] at hm
      -- A press that waits is a moment by itself, as all others start later.
      have hlater : p.start < q.start := by
        rw [hq]
        omega
      rcases List.mem_cons.mp hm with rfl | hm
      · refine halone fun r hr => ?_
        have hle : q.start ≤ r.start := by
          rcases List.mem_cons.mp hr with rfl | hr
          · exact Nat.le_refl _
          · exact start_le hrest r hr
        omega
      · have hle := start_le_of_mem_momentsAfter hrest hm
        rw [pressAt_elsewhere (by omega)]
        exact ih hrest hm

/-- The moments wait for as long as the presses. -/
theorem sum_wait_momentsAfter (p : Press) (ps : List Press) :
    ((momentsAfter p ps).map (·.wait)).sum = ((p :: ps).map (·.wait)).sum := by
  induction ps generalizing p with
  | nil => rfl
  | cons q ps ih =>
    by_cases hjoins : p.wait = 0
    · have hwait : (p.join q).wait = q.wait := by
        show max p.wait q.wait = q.wait
        rw [hjoins, Nat.zero_max]
      rw [momentsAfter_join hjoins, ih]
      simp only [List.map_cons, List.sum_cons, hwait, hjoins, Nat.zero_add]
    · rw [momentsAfter_wait hjoins, List.map_cons, List.sum_cons, ih]
      rfl

/-- Moments start one after the other. -/
theorem pairwise_start {m : Press} {ms : List Press} (h : (m :: ms).IsChain Settles) :
    ((m :: ms).map (·.start)).Pairwise (· < ·) := by
  refine List.isChain_iff_pairwise.mp ((List.isChain_map _).mpr (h.imp ?_))
  intro p q hpq
  show p.start < q.start
  rw [hpq.2.1]
  exact Nat.lt_add_of_pos_right hpq.1

/-- All moments but the first have keys. -/
theorem keys_of_settles {m : Press} {ms : List Press} (h : (m :: ms).IsChain Settles) :
    ∀ p ∈ ms, p.keys ≠ [] := by
  induction ms generalizing m with
  | nil => exact List.forall_mem_nil _
  | cons next ms ih =>
    obtain ⟨⟨-, -, hkeys⟩, hrest⟩ := List.isChain_cons_cons.mp h
    exact List.forall_mem_cons.mpr ⟨hkeys, ih hrest⟩

/-- **What the moments of a timeline are**: each has the keys and the longest hold that stand at its
start, and they wait for all the time that there is. -/
theorem moments_spec {contents : List Item} (hholds : HoldsFollowKeys contents) :
    ∃ m ms, moments (presses contents) = m :: ms ∧ m.start = 0 ∧ (m :: ms).IsChain Settles
      ∧ (∀ p ∈ m :: ms, p.keys = pitches (standing p.start 0 contents)
        ∧ p.hold = longest (standing p.start 0 contents))
      ∧ ((m :: ms).map (·.wait)).sum = total contents
      ∧ timedBeats (presses contents) = (m :: ms).flatMap Press.beats := by
  obtain ⟨p, ps, hps, hstart, -, hchain, hkeys⟩ := pressesFrom_spec contents 0 { start := 0 } rfl
  obtain ⟨m, ms, hms, hm, -, hsettles⟩ := momentsAfter_spec hchain hkeys
  have hpresses : presses contents = p :: ps := hps
  have hmoments : moments (presses contents) = m :: ms := by
    rw [hpresses]
    exact hms
  have hready : Ready false 0 { start := 0 } :=
    ⟨fun _ => rfl, fun h => absurd h Bool.false_ne_true⟩
  refine ⟨m, ms, hmoments, hm.trans hstart, hsettles, ?_, ?_, ?_⟩
  · intro q hq
    rw [← hms] at hq
    have hpress := pressAt_of_mem hchain hq
    rw [← hps] at hpress
    constructor
    · rw [← hpress, keys_pressAt_pressesFrom, ite_self, List.nil_append, hpress]
    · rw [← hpress, hold_pressAt_pressesFrom contents (holdsFrom_false.mpr hholds) hready, ite_self,
        Nat.zero_max, hpress]
  · rw [← hms, sum_wait_momentsAfter, ← hps, sum_wait_pressesFrom]
    exact Nat.zero_add _
  · rw [← hmoments, hpresses]
    exact timedBeats_eq hchain

/-! ## 4. The tiling -/

/-- A chord up to the next one, `wait` later: all of it, or a rest behind it if it is released
early. -/
def chordSpans (keys : List Int) (hold wait : Nat) : List Span :=
  if 0 < hold ∧ hold < wait then [⟨hold, keys⟩, ⟨wait - hold, []⟩] else [⟨wait, keys⟩]

/-- The chords that start at some clocks, each up to the next one or up to the end. -/
def chordsFrom (contents : List Item) : List Nat → List Span
  | [] => []
  | clock :: rest =>
    chordSpans (pitches (standing clock 0 contents)) (longest (standing clock 0 contents))
        (rest.headD (total contents) - clock)
      ++ chordsFrom contents rest

/-- **The beats of a timeline**, in milliseconds: a rest up to the first chord, if there is time for
it, and the chords. -/
def tiling (contents : List Item) : List Span :=
  let first := (clocks contents).headD (total contents)
  (if first = 0 then [] else [⟨first, []⟩]) ++ chordsFrom contents (clocks contents)

theorem beats_of_keys {m : Press} (h : m.keys ≠ []) :
    m.beats = chordSpans m.keys m.hold m.wait := by
  simp only [Press.beats, chordSpans, h, ne_eq, not_false_eq_true, true_and]

/-- Moments that have their keys and holds from the items, and wait up to the end, are chords. -/
theorem flatMap_beats_eq {contents : List Item} {m : Press} {ms : List Press}
    (hsettles : (m :: ms).IsChain Settles) (hkeys : ∀ p ∈ m :: ms, p.keys ≠ [])
    (hitems : ∀ p ∈ m :: ms, p.keys = pitches (standing p.start 0 contents)
      ∧ p.hold = longest (standing p.start 0 contents))
    (hend : m.start + ((m :: ms).map (·.wait)).sum = total contents) :
    (m :: ms).flatMap Press.beats = chordsFrom contents ((m :: ms).map (·.start)) := by
  induction ms generalizing m with
  | nil =>
    obtain ⟨hpitches, hlongest⟩ := hitems m (by simp)
    have hwait : total contents - m.start = m.wait := by
      simp only [List.map_cons, List.map_nil, List.sum_singleton] at hend
      omega
    show m.beats ++ [] = chordSpans _ _ (total contents - m.start) ++ []
    rw [beats_of_keys (hkeys m (by simp)), ← hpitches, ← hlongest, hwait]
  | cons next ms ih =>
    obtain ⟨⟨-, hstart, -⟩, hrest⟩ := List.isChain_cons_cons.mp hsettles
    obtain ⟨hpitches, hlongest⟩ := hitems m (by simp)
    have hwait : next.start - m.start = m.wait := by omega
    have hothers := ih hrest (fun p hp => hkeys p (by simp [hp]))
      (fun p hp => hitems p (by simp [hp])) (by
        rw [hstart, ← hend, List.map_cons (l := next :: ms), List.sum_cons, Nat.add_assoc])
    rw [List.flatMap_cons, hothers, beats_of_keys (hkeys m (by simp))]
    show _ = chordSpans _ _ (next.start - m.start) ++ _
    rw [← hpitches, ← hlongest, hwait]

/-- The moments with keys start at the clocks of the keys. -/
theorem starts_eq_clocks {contents : List Item} {ms : List Press}
    (hsorted : (ms.map (·.start)).Pairwise (· < ·)) (hkeys : ∀ p ∈ ms, p.keys ≠ [])
    (hsounds : ∀ time, SoundsAt time ms ↔ time ∈ keyClocks 0 contents) :
    ms.map (·.start) = clocks contents := by
  refine hsorted.eq_of_mem_iff pairwise_clocks fun time => ?_
  rw [clocks, List.mem_eraseDups, ← hsounds, List.mem_map]
  constructor
  · rintro ⟨p, hp, rfl⟩
    exact ⟨p, hp, hkeys p hp, rfl⟩
  · rintro ⟨p, hp, -, rfl⟩
    exact ⟨p, hp, rfl⟩

/-- **The beats of a timeline's presses are its tiling**, if there is any time at all. -/
theorem timedBeats_presses {contents : List Item} (hholds : HoldsFollowKeys contents)
    (htime : total contents ≠ 0) : timedBeats (presses contents) = tiling contents := by
  obtain ⟨m, ms, hmoments, hstart, hsettles, hitems, hsum, hbeats⟩ := moments_spec hholds
  have hothers := keys_of_settles hsettles
  have hsorted := pairwise_start hsettles
  have hsounds : ∀ time, SoundsAt time (m :: ms) ↔ time ∈ keyClocks 0 contents := by
    intro time
    rw [← hmoments]
    exact soundsAt_moments contents
  rw [hbeats]
  by_cases hkeys : m.keys = []
  · -- The first moment is the rest, up to the next one or up to the end.
    have hbeats : m.beats = [⟨m.wait, []⟩] := by
      rw [Press.beats, if_neg fun h => h.1 hkeys, hkeys]
    have hclocks : ms.map (·.start) = clocks contents := by
      refine starts_eq_clocks (List.pairwise_cons.mp hsorted).2 hothers fun time => ?_
      rw [← hsounds, soundsAt_cons, or_iff_right fun h => h.1 hkeys]
    rw [List.flatMap_cons, hbeats, tiling, ← hclocks]
    cases ms with
    | nil =>
      have hwait : m.wait = total contents := hsum
      show [(⟨m.wait, []⟩ : Span)]
        = (if total contents = 0 then [] else [⟨total contents, []⟩]) ++ []
      rw [if_neg htime, hwait, List.append_nil]
    | cons next ms =>
      obtain ⟨⟨hwait, hnext, -⟩, hrest⟩ := List.isChain_cons_cons.mp hsettles
      rw [hstart, Nat.zero_add] at hnext
      have hend : next.start + ((next :: ms).map (·.wait)).sum = total contents := by
        rw [hnext, ← hsum]
        rfl
      rw [flatMap_beats_eq hrest hothers (fun p hp => hitems p (by simp [hp])) hend]
      show _ = (if next.start = 0 then [] else [(⟨next.start, []⟩ : Span)]) ++ _
      rw [if_neg (by omega), hnext]
  · -- The first moment is a chord, and no time is before it.
    have hall : ∀ p ∈ m :: ms, p.keys ≠ [] := List.forall_mem_cons.mpr ⟨hkeys, hothers⟩
    have hend : m.start + ((m :: ms).map (·.wait)).sum = total contents := by omega
    rw [flatMap_beats_eq hsettles hall hitems hend, starts_eq_clocks hsorted hall hsounds, tiling,
      ← starts_eq_clocks hsorted hall hsounds]
    show _ = (if m.start = 0 then [] else [(⟨m.start, []⟩ : Span)]) ++ _
    rw [if_pos hstart, List.nil_append]

/-- The beats of a moment take the time that it waits. -/
theorem sum_time_beats (m : Press) : (m.beats.map (·.time)).sum = m.wait := by
  rw [Press.beats]
  split
  case isTrue hreleased =>
    simp only [List.map_cons, List.map_nil, List.sum_cons, List.sum_nil]
    omega
  case isFalse => exact List.sum_singleton

/-- **The beats of a timeline take all of its time.** -/
theorem sum_time_timedBeats {contents : List Item} (hholds : HoldsFollowKeys contents) :
    ((timedBeats (presses contents)).map (·.time)).sum = total contents := by
  obtain ⟨m, ms, -, -, -, -, hsum, hbeats⟩ := moments_spec hholds
  rw [hbeats, ← hsum, List.map_flatMap, List.flatMap_def, List.sum_flatten, List.map_map]
  exact congrArg List.sum (List.map_congr_left fun p _ => sum_time_beats p)

/-- Only the last beat of moments may not last. -/
theorem lasts_of_settles {m : Press} {ms : List Press} (h : (m :: ms).IsChain Settles) :
    ∀ s ∈ ((m :: ms).flatMap Press.beats).dropLast, 0 < s.time := by
  induction ms generalizing m with
  | nil =>
    intro s hs
    rw [List.flatMap_singleton, Press.beats] at hs
    split at hs
    case isTrue hreleased =>
      cases List.mem_singleton.mp hs
      exact hreleased.2.1
    case isFalse => cases hs
  | cons next ms ih =>
    obtain ⟨⟨hwait, -, -⟩, hrest⟩ := List.isChain_cons_cons.mp h
    have hne : (next :: ms).flatMap Press.beats ≠ [] := by
      rw [List.flatMap_cons, Press.beats]
      split <;> simp
    intro s hs
    rw [List.flatMap_cons, List.dropLast_append_of_ne_nil hne] at hs
    rcases List.mem_append.mp hs with hs | hs
    · rw [Press.beats] at hs
      split at hs
      case isTrue hreleased =>
        simp only [List.mem_cons, List.not_mem_nil, or_false] at hs
        rcases hs with rfl | rfl
        · exact hreleased.2.1
        · exact Nat.sub_pos_of_lt hreleased.2.2
      case isFalse =>
        cases List.mem_singleton.mp hs
        exact hwait
    · exact ih hrest s hs

/-! ## 5. What is read -/

/-- The keys of moments are what stands where they start. -/
theorem chords_of_moments {contents : List Item} {ms : List Press}
    (hsorted : (ms.map (·.start)).Pairwise (· < ·))
    (hitems : ∀ p ∈ ms, p.keys = pitches (standing p.start 0 contents))
    (hsounds : ∀ time, SoundsAt time ms ↔ time ∈ keyClocks 0 contents) :
    ms.flatMap Press.chord
      = (clocks contents).map fun time : Nat =>
        ((time : Int), pitches (standing time 0 contents)) := by
  have hkeyed : ∀ p ∈ ms.filter (·.keys ≠ []), p.keys ≠ [] := fun p hp =>
    of_decide_eq_true (List.mem_filter.mp hp).2
  have hchords : ∀ ps : List Press, (∀ p ∈ ps, p ∈ ms) → ps.flatMap Press.chord
      = (ps.filter (·.keys ≠ [])).map fun p =>
        ((p.start : Int), pitches (standing p.start 0 contents)) := by
    intro ps hps
    induction ps with
    | nil => rfl
    | cons p ps ih =>
      rw [List.flatMap_cons, ih fun q hq => hps q (by simp [hq]), Press.chord]
      by_cases hsilent : p.keys = []
      · simp [hsilent]
      · simp [hsilent, ← hitems p (hps p (by simp))]
  have hstarts : (ms.filter (·.keys ≠ [])).map (·.start) = clocks contents := by
    refine starts_eq_clocks (hsorted.sublist (List.filter_sublist.map _)) hkeyed fun time => ?_
    rw [← hsounds]
    constructor
    · rintro ⟨p, hp, hkeys, hstart⟩
      exact ⟨p, (List.mem_filter.mp hp).1, hkeys, hstart⟩
    · rintro ⟨p, hp, hkeys, hstart⟩
      exact ⟨p, List.mem_filter.mpr ⟨hp, decide_eq_true hkeys⟩, hkeys, hstart⟩
  rw [hchords ms fun p hp => hp, ← hstarts, List.map_map]
  rfl

/-- A timeline takes no time exactly when none of its beats lasts. -/
theorem total_eq_zero_iff {contents : List Item} (hholds : HoldsFollowKeys contents) :
    total contents = 0 ↔ ∀ s ∈ timedBeats (presses contents), s.time = 0 := by
  rw [← sum_time_timedBeats hholds, List.sum_eq_zero_iff_forall_eq_nat, List.forall_mem_map]

variable {name content : Text} {score : Score}

/-- **The beats of a timeline tile its clock.** They are those of its tiling, counted in the
shortest of them that lasts; what sounds is, for each clock that has keys and in order, the keys
that stand there; and they take all the time of the timeline, the last one alone perhaps none of it.
-/
theorem beats_tile (h : read name content version = .ok score) :
    ∃ contents, ∃ unit : Nat, items content = .ok contents
      ∧ IsShortest (tiling contents) unit
      ∧ score.bpm = (60000 / unit : Nat)
      ∧ score.beats.map (fun b => (b.rate.num, b.rate.den, b.tones))
        = (tiling contents).map (fun s =>
          (if s.time = 0 then 4 * (unit : Int) else s.time, (unit : Int), s.keys.eraseDups))
      ∧ soundings (·.rate.num) 0 score.beats
        = (clocks contents).map (fun time : Nat =>
          ((time : Int), (pitches (standing time 0 contents)).eraseDups))
      ∧ (clocks contents).Pairwise (· < ·)
      ∧ (∀ time, time ∈ clocks contents ↔ ∃ before pitch after,
        contents = before ++ .key pitch :: after ∧ total before = time)
      ∧ ((tiling contents).map (·.time)).sum = total contents
      ∧ ∀ s ∈ (tiling contents).dropLast, 0 < s.time := by
  obtain ⟨contents, m, ms, unit, hne, hitems, hmoments, hstart, hsettles, hshortest, -, rfl⟩ :=
    exists_moments_of_read h
  have hholds := holdsFollowKeys_of_items hitems
  obtain ⟨m', ms', hmoments', -, -, hstanding, -, hbeats⟩ := moments_spec hholds
  cases hmoments.symm.trans hmoments'
  obtain ⟨s, hs, htime⟩ := hshortest.mem
  -- What was read has a beat that lasts.
  have htotal : total contents ≠ 0 := by
    intro hzero
    rw [total_eq_zero_iff hholds, hbeats] at hzero
    exact hshortest.pos.ne' (htime ▸ hzero s hs)
  have htiling : (m :: ms).flatMap Press.beats = tiling contents := by
    rw [← hbeats]
    exact timedBeats_presses hholds htotal
  have hsounds : ∀ time, SoundsAt time (m :: ms) ↔ time ∈ keyClocks 0 contents := by
    intro time
    rw [← hmoments]
    exact soundsAt_moments contents
  refine ⟨contents, unit, hitems, htiling ▸ hshortest, rfl, ?_, ?_, pairwise_clocks,
    fun _ => mem_clocks, ?_, ?_⟩
  · rw [← htiling, scoreOf, List.map_map]
    refine List.map_congr_left fun s _ => ?_
    rw [Int.mul_comm]
    rfl
  · have hheard : soundings (·.rate.num) m.start
          (((m :: ms).flatMap Press.beats).map (Span.toBeat unit hne))
        = ((m :: ms).flatMap Press.chord).map fun c => (c.1, c.2.eraseDups) :=
      soundings_beats hsettles
    rw [hstart] at hheard
    refine hheard.trans ?_
    rw [chords_of_moments (pairwise_start hsettles) (fun p hp => (hstanding p hp).1) hsounds,
      List.map_map]
    rfl
  · rw [← htiling, ← hbeats]
    exact sum_time_timedBeats hholds
  · rw [← htiling]
    exact lasts_of_settles hsettles

/-- A rest, a chord that is released early, a chord of three keys of which two are one, and a last
key that takes no time. -/
theorem beats_tile_sample :
    let content : Text := "10 {C3}(20) 30 {D3}{C3} {D3}<50>{E3}"
    let score : Score := {
      name := .string "s"
      bpm := 6000
      beats := [⟨⟨10, 10, by decide⟩, []⟩, ⟨⟨20, 10, by decide⟩, [0]⟩, ⟨⟨10, 10, by decide⟩, []⟩,
        ⟨⟨50, 10, by decide⟩, [2, 0]⟩, ⟨⟨40, 10, by decide⟩, [4]⟩] }
    read "s" content version = .ok score
      ∧ ∃ contents, ∃ unit : Nat, items content = .ok contents
        ∧ tiling contents = [⟨10, []⟩, ⟨20, [0]⟩, ⟨10, []⟩, ⟨50, [2, 0, 2]⟩, ⟨0, [4]⟩]
        ∧ IsShortest (tiling contents) unit ∧ score.bpm = (60000 / unit : Nat)
        ∧ soundings (·.rate.num) 0 score.beats
          = (clocks contents).map (fun time : Nat =>
            ((time : Int), (pitches (standing time 0 contents)).eraseDups)) := by
  intro content score
  have hread : read "s" content version = .ok score := by rfl
  obtain ⟨contents, unit, hitems, hshortest, hbpm, -, hsounds, -⟩ := beats_tile hread
  have hcontents : items content = .ok [.wait 10, .key 0, .hold 20 false, .wait 30, .key 2, .key 0,
      .key 2, .hold 50 true, .key 4] := by rfl
  refine ⟨hread, contents, unit, hitems, ?_, hshortest, hbpm, hsounds⟩
  cases hitems.symm.trans hcontents
  decide

/-- **What is a timeline and what becomes of it.** A text is one exactly when tokens spell it; where
it is none it breaks off at one of its own code points; and one that is read makes a score unless it
takes no time or its shortest beat is longer than a minute. -/
theorem read_spec (name content : Text) :
    (∀ contents, items content = .ok contents
      ↔ ∃ tokens, IsTimeline tokens ∧ spelling tokens = content ∧ meaning tokens = contents)
      ∧ (∀ e, items content = .error e →
        ∃ index < content.length, e = .timelineForm index ∧ e.kind = .malformed)
      ∧ ∀ contents, items content = .ok contents → ∀ e, read name content version = .error e
        ↔ (e = .timelineEmpty ∧ total contents = 0)
          ∨ (e = .bpmRange ∧ total contents ≠ 0
            ∧ ∃ unit, IsShortest (tiling contents) unit ∧ 60000 < unit) := by
  refine ⟨fun contents => items_eq_ok_iff, ?_, ?_⟩
  · intro e h
    obtain ⟨index, hlt, rfl⟩ := exists_index_of_items h
    exact ⟨index, hlt, rfl, rfl⟩
  · intro contents hitems e
    have hholds := holdsFollowKeys_of_items hitems
    have hread : read name content version = ofSpans name (timedBeats (presses contents)) := by
      rw [read, if_neg (by decide), hitems]
      rfl
    rw [hread]
    by_cases hzero : total contents = 0
    · rw [ofSpans_of_none ((total_eq_zero_iff hholds).mp hzero), Except.error.injEq]
      constructor
      · intro h
        exact .inl ⟨h.symm, hzero⟩
      · rintro (⟨rfl, -⟩ | ⟨-, hlasts, -⟩)
        · rfl
        · exact absurd hzero hlasts
    · have htiling := timedBeats_presses hholds hzero
      rcases none_or_isShortest (timedBeats (presses contents)) with hnone | ⟨unit, hshortest⟩
      · exact absurd ((total_eq_zero_iff hholds).mpr hnone) hzero
      rw [ofSpans_of_isShortest hshortest]
      rw [htiling] at hshortest
      constructor
      · intro h
        split_ifs at h with hle
        cases h
        exact .inr ⟨rfl, hzero, unit, hshortest, by omega⟩
      · rintro (⟨-, hnone⟩ | ⟨rfl, -, other, hother, hlong⟩)
        · exact absurd hnone hzero
        · cases hshortest.unique hother
          rw [if_neg (by omega)]

/-- A hold behind a blank is read, one behind a number is not; a timeline of presses alone takes no
time. -/
theorem read_spec_samples :
    (∃ tokens, IsTimeline tokens ∧ spelling tokens = "{C3} <5>"
      ∧ meaning tokens = [.key 0, .hold 5 true])
      ∧ (∃ index < ("{C3}5<5>" : Text).length,
        items "{C3}5<5>" = .error (.timelineForm index) ∧ index = 5)
      ∧ read "s" "{C3}{D3}" version = .error .timelineEmpty := by
  have hread : items "{C3} <5>" = .ok [.key 0, .hold 5 true] := by rfl
  have hrefused : items "{C3}5<5>" = .error (.timelineForm 5) := by rfl
  have hpressed : items "{C3}{D3}" = .ok [.key 0, .key 2] := by rfl
  refine ⟨((read_spec "s" "{C3} <5>").1 _).mp hread, ?_,
    ((read_spec "s" "{C3}{D3}").2.2 _ hpressed _).mpr (.inl ⟨rfl, rfl⟩)⟩
  obtain ⟨index, hlt, hindex, -⟩ := (read_spec "s" "{C3}5<5>").2.1 _ hrefused
  cases hindex
  exact ⟨5, hlt, hrefused, rfl⟩

end SongSheet.Timeline
