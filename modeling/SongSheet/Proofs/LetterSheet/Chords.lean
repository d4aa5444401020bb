import SongSheet.Proofs.LetterSheet.Marks
import SongSheet.Proofs.Soundings

/-!
# The chords of written beats

The marks of a score, put together again. Rests have no mark of their own: their dots belong to the
chord before them, or to the lead when there is none. So what is left of the beats is where the
chords start, and that is `soundings`: **the chords that `gather` finds are those of the beats that
take time, each with the dots up to the start of the next** (`dotted_gather`).
-/

set_option autoImplicit false

namespace SongSheet.LetterSheet

/-! ## 1. One word of marks -/

theorem gather_dots (n : Nat) (rest : List Mark) :
    (gather (dotMarks n ++ rest)).lead = (gather rest).lead + n
      ∧ (gather (dotMarks n ++ rest)).chords = (gather rest).chords := by
  induction n with
  | zero => exact ⟨rfl, rfl⟩
  | succ n ih =>
    obtain ⟨hlead, hchords⟩ := ih
    have hdots : dotMarks (n + 1) ++ rest = .dot :: .blank :: (dotMarks n ++ rest) := by
      rw [dotMarks, List.replicate_succ]
      rfl
    rw [hdots]
    constructor
    · rw [← Nat.add_assoc, ← hlead]
      rfl
    · rw [← hchords]
      rfl

/-- Keys that stand together are one chord, and the dots behind them are its own. -/
theorem gather_keys {tones : List Int} (hne : tones ≠ []) {rest : List Mark}
    (hrest : (gather rest).opensWithKey = false) :
    gather (tones.map .key ++ rest)
      = ⟨0, true, ⟨tones, (gather rest).lead⟩ :: (gather rest).chords⟩ := by
  induction tones with
  | nil => exact absurd rfl hne
  | cons tone tones ih =>
    rw [List.map_cons, List.cons_append, gather]
    cases tones with
    | nil =>
      rw [List.map_nil, List.nil_append]
      simp [hrest]
    | cons next tones => rw [ih (List.cons_ne_nil _ _)]

/-- Nothing is gathered from a blank at the end. -/
theorem gather_append_blank (ms : List Mark) : gather (ms ++ [.blank]) = gather ms := by
  induction ms with
  | nil => rfl
  | cons m ms ih =>
    cases m with
    | key pitch => rw [List.cons_append, gather, gather, ih]
    | dot => rw [List.cons_append, gather, gather, ih]
    | blank => rw [List.cons_append, gather, gather, ih]

/-- A blank at the end of a text is a mark of its own: the text before it breaks off nowhere. -/
theorem marks_of_append_blank {t : Text} {ms : List Mark}
    (h : marks (t ++ (" " : Text)) = .ok ms) : ∃ ns, marks t = .ok ns ∧ ms = ns ++ [.blank] := by
  -- Along the reader: it stops in the text as it would without the blank, except behind a row.
  fun_induction marks t generalizing ms with
  | case1 => exact ⟨[], rfl, (Except.ok.inj h).symm⟩
  | case2 t ih =>
    rw [List.cons_append, marks, if_pos rfl] at h
    obtain ⟨ms, hms, rfl⟩ := map_eq_ok h
    obtain ⟨ns, hns, rfl⟩ := ih hms
    exact ⟨.dot :: ns, by rw [hns]; rfl, rfl⟩
  | case3 c t hdot hrow hblank ih =>
    rw [List.cons_append, marks, if_neg hdot, hrow] at h
    simp only [if_pos hblank] at h
    obtain ⟨ms, hms, rfl⟩ := map_eq_ok h
    obtain ⟨ns, hns, rfl⟩ := ih hms
    exact ⟨.blank :: ns, by rw [hns]; rfl, rfl⟩
  | case4 c t hdot hrow hblank =>
    rw [List.cons_append, marks, if_neg hdot, hrow] at h
    simp only [if_neg hblank] at h
    cases h
  | case5 c hdot row hrow =>
    rw [List.singleton_append, marks, if_neg hdot, hrow] at h
    cases h
  | case6 c hdot row hrow d u hcolumn =>
    rw [List.cons_append, List.cons_append, marks, if_neg hdot, hrow] at h
    simp only [hcolumn] at h
    cases h
  | case7 c hdot row hrow d u column hcolumn ih =>
    rw [List.cons_append, List.cons_append, marks, if_neg hdot, hrow] at h
    simp only [hcolumn] at h
    obtain ⟨ms, hms, rfl⟩ := map_eq_ok h
    obtain ⟨ns, hns, rfl⟩ := ih hms
    exact ⟨.key _ :: ns, by rw [hns]; rfl, rfl⟩

/-! ## 2. The chords of a score -/

/-- The start of the first chord, and the end of the sheet when there is none. -/
def firstOnset (finish : Int) : List (Int × List Int) → Int
  | [] => finish
  | (onset, _) :: _ => onset

/-- Chords with the dots up to the start of the next one, and after the last up to the end of the
sheet. -/
inductive Dotted (finish : Int) : List Chord → List (Int × List Int) → Prop
  | nil : Dotted finish [] []
  | cons {onset : Int} {tones : List Int} {dots : Nat} {chords : List Chord}
      {sounding : List (Int × List Int)} (hdots : onset + 1 + dots = firstOnset finish sounding)
      (hrest : Dotted finish chords sounding) :
      Dotted finish (⟨tones, dots⟩ :: chords) ((onset, tones) :: sounding)

/-- **What is gathered from the marks of beats**: before the first chord the units up to its start,
and every chord with the dots up to the start of the next. -/
theorem dotted_gather {length : Beat → Int} {bs : List Beat} {clock finish : Int}
    (hpos : ∀ b ∈ bs, 0 < length b) (hfinish : clock + (bs.map length).sum = finish) :
    clock + (gather (marksOf length bs)).lead = firstOnset finish (soundings length clock bs)
      ∧ Dotted finish (gather (marksOf length bs)).chords (soundings length clock bs) := by
  induction bs generalizing clock with
  | nil =>
    rw [List.map_nil, List.sum_nil] at hfinish
    exact ⟨hfinish, Dotted.nil⟩
  | cons b bs ih =>
    have hb : 0 < length b := hpos b (by simp)
    rw [List.map_cons, List.sum_cons, ← Int.add_assoc] at hfinish
    obtain ⟨hlead, hchords⟩ := ih (fun c hc => hpos c (by simp [hc])) hfinish
    rw [marksOf_cons, beatMarks, if_neg hb.not_ge, soundings]
    -- The dots of a rest go to the lead; those of a chord, and the lead after it, to the chord.
    by_cases hempty : b.tones.isEmpty
    · simp only [if_pos hempty]
      obtain ⟨hmore, hsame⟩ := gather_dots (length b).toNat (marksOf length bs)
      rw [hmore, hsame]
      exact ⟨by omega, hchords⟩
    · simp only [if_neg hempty]
      have hne : b.tones ≠ [] := by simpa using hempty
      obtain ⟨hmore, hsame⟩ := gather_dots (length b - 1).toNat (marksOf length bs)
      rw [List.append_assoc, List.cons_append, gather_keys hne rfl, gather, hmore, hsame]
      refine ⟨?_, Dotted.cons ?_ hchords⟩
      · exact Int.add_zero clock
      · omega

/-! ## 3. Chords as beats -/

/-- The beats of chords that sound from their own start to the start of the next, and the last one
to the end of the sheet, but for four units at least. -/
def chordsUntil (finish : Int) : List (Int × List Int) → List Beat
  | [] => []
  | [(onset, tones)] => [{ rate := .ofInt (max 4 (finish - onset)), tones := tones.eraseDups }]
  | (onset, tones) :: (next, keys) :: rest =>
    { rate := .ofInt (next - onset), tones := tones.eraseDups }
      :: chordsUntil finish ((next, keys) :: rest)

/-- What is heard of a sheet that starts at zero: a rest up to the first chord, then the chords. -/
def heard (finish : Int) (sounding : List (Int × List Int)) : List Beat :=
  match sounding with
  | [] => []
  | (onset, _) :: _ =>
    if 0 < onset then { rate := .ofInt onset, tones := [] } :: chordsUntil finish sounding
    else chordsUntil finish sounding

theorem Dotted.chordBeats_eq {finish : Int} {chords : List Chord}
    {sounding : List (Int × List Int)} (h : Dotted finish chords sounding) :
    chordBeats chords = chordsUntil finish sounding := by
  induction h with
  | nil => rfl
  | @cons onset tones dots chords sounding hdots hrest ih =>
    -- The last chord takes the dots of the tail, so whether another one follows has to be known.
    cases hrest with
    | nil =>
      have hunits : (1 + (max tailDots dots : Nat) : Int) = max 4 (finish - onset) := by
        rw [firstOnset] at hdots
        rw [tailDots]
        omega
      rw [chordBeats, chordsUntil, Chord.toBeat, hunits]
    | @cons next keys more chords sounding hmore hrest =>
      have hunits : (1 + dots : Int) = next - onset := by
        rw [firstOnset] at hdots
        omega
      rw [chordBeats, chordsUntil, ih, Chord.toBeat, hunits]
      intro hnil
      cases hnil

theorem Dotted.beats_eq {finish : Int} {g : Gathered} {sounding : List (Int × List Int)}
    (hlead : (g.lead : Int) = firstOnset finish sounding) (h : Dotted finish g.chords sounding) :
    LetterSheet.beats g = heard finish sounding := by
  have hbeats := h.chordBeats_eq
  obtain ⟨lead, opens, chords⟩ := g
  cases h with
  | nil => rfl
  | @cons onset tones dots chords sounding hdots hrest =>
    have hlead : (lead : Int) = onset := hlead
    unfold LetterSheet.beats heard
    dsimp only at hbeats ⊢
    by_cases hzero : lead = 0
    · rw [if_pos hzero, if_neg (by omega), hbeats]
    · rw [if_neg hzero, if_pos (by omega), hbeats, hlead]

/-- **Reading the marks of beats gives what is heard of them**: the rests are gone and every chord
holds until the next. -/
theorem beats_gather {length : Beat → Int} {bs : List Beat} (hpos : ∀ b ∈ bs, 0 < length b) :
    LetterSheet.beats (gather (marksOf length bs))
      = heard (bs.map length).sum (soundings length 0 bs) := by
  obtain ⟨hlead, hchords⟩ := dotted_gather hpos (Int.zero_add (bs.map length).sum)
  rw [Int.zero_add] at hlead
  exact hchords.beats_eq hlead

end SongSheet.LetterSheet
