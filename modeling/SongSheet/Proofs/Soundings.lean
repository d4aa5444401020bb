import SongSheet.Proofs.Arrangement
import SongSheet.Score

/-!
# When beats sound

Formats that put a score on a clock do not keep its beats: rests are gaps between what sounds, and
where a chord starts is all there is. `soundings` is the score seen that way, for any measure of
length: the chords in order, each with the moment it starts at. Where chords that start together
become one, `gathered` is what is left of them.
-/

set_option autoImplicit false

namespace SongSheet

/-- The chords of beats and the moments they start at, if the first beat starts at `clock` and every
beat takes its `length`. -/
def soundings (length : Beat → Int) (clock : Int) : List Beat → List (Int × List Int)
  | [] => []
  | b :: rest =>
    if b.tones.isEmpty then soundings length (clock + length b) rest
    else (clock, b.tones) :: soundings length (clock + length b) rest

/-- Chords of one moment as one: their tones in order, each once. -/
def gathered (sounding : List (Int × List Int)) : List (Int × List Int) :=
  (gatherBy (·.1) sounding).map fun (time, group) => (time, (group.flatMap (·.2)).eraseDups)

/-- A chord whose moment does not come again is gathered alone. -/
theorem gathered_cons {time : Int} {tones : List Int} {sounding : List (Int × List Int)}
    (h : ∀ s ∈ sounding, s.1 ≠ time) :
    gathered ((time, tones) :: sounding) = (time, tones.eraseDups) :: gathered sounding := by
  have hgather : gatherBy (·.1) ([(time, tones)] ++ sounding)
      = (time, [(time, tones)]) :: gatherBy (·.1) sounding :=
    gatherBy_append (by simp) (by simp) h
  have htones : [(time, tones)].flatMap (·.2) = tones := List.append_nil tones
  rw [gathered, ← List.singleton_append, hgather, List.map_cons, gathered]
  dsimp only
  rw [htones]

/-- Two chords of one moment are gathered as one. -/
theorem gathered_join (time : Int) (tones more : List Int) (sounding : List (Int × List Int)) :
    gathered ((time, tones) :: (time, more) :: sounding)
      = gathered ((time, tones ++ more) :: sounding) := by
  have hkeys : ((time :: time :: sounding.map (·.1)).eraseDups)
      = (time :: sounding.map (·.1)).eraseDups := by
    simp [List.eraseDups_cons]
  simp only [gathered, gatherBy, List.map_cons, hkeys, List.map_map]
  refine List.map_congr_left fun k _ => ?_
  by_cases hk : time = k
  · simp [hk]
  · simp [hk]

/-! ## Onsets -/

/-- The moments at which beats sound. -/
def onsets (length : Beat → Int) (clock : Int) (bs : List Beat) : List Int :=
  (soundings length clock bs).map (·.1)

section Onsets

variable {length other : Beat → Int} {clock : Int} {b : Beat} {bs : List Beat}

theorem onsets_rest (h : b.tones = []) :
    onsets length clock (b :: bs) = onsets length (clock + length b) bs := by
  rw [onsets, soundings, if_pos (by simpa using h)]
  rfl

theorem onsets_chord (h : b.tones ≠ []) :
    onsets length clock (b :: bs) = clock :: onsets length (clock + length b) bs := by
  rw [onsets, soundings, if_neg (by simpa using h)]
  rfl

theorem le_of_mem_onsets (h : ∀ b ∈ bs, 0 < length b) :
    ∀ time ∈ onsets length clock bs, clock ≤ time := by
  induction bs generalizing clock with
  | nil => exact nofun
  | cons b bs ih =>
    have hpos := h b (by simp)
    have hlater : ∀ time ∈ onsets length (clock + length b) bs, clock ≤ time := by
      intro time htime
      have hle := ih (fun c hc => h c (by simp [hc])) time htime
      omega
    by_cases hrest : b.tones = []
    · rw [onsets_rest hrest]
      exact hlater
    · rw [onsets_chord hrest, List.forall_mem_cons]
      exact ⟨Int.le_refl clock, hlater⟩

/-- Where every beat lasts no two of them sound together. -/
theorem pairwise_onsets (h : ∀ b ∈ bs, 0 < length b) :
    (onsets length clock bs).Pairwise (· < ·) := by
  induction bs generalizing clock with
  | nil => exact .nil
  | cons b bs ih =>
    have hothers : ∀ c ∈ bs, 0 < length c := fun c hc => h c (by simp [hc])
    by_cases hrest : b.tones = []
    · rw [onsets_rest hrest]
      exact ih hothers
    · rw [onsets_chord hrest]
      refine .cons (fun time htime => ?_) (ih hothers)
      have hle := le_of_mem_onsets hothers time htime
      have hpos := h b (by simp)
      omega

/-- A property of every beat that has a sounding one somewhere behind it. -/
def AheadOfSound (P : Beat → Prop) (bs : List Beat) : Prop :=
  ∀ before b after, bs = before ++ b :: after → (∃ s ∈ after, s.tones ≠ []) → P b

theorem aheadOfSound_cons {P : Beat → Prop} :
    AheadOfSound P (b :: bs) ↔ ((∃ s ∈ bs, s.tones ≠ []) → P b) ∧ AheadOfSound P bs := by
  constructor
  · intro h
    refine ⟨h [] b bs rfl, fun before c after hsplit => h (b :: before) c after ?_⟩
    rw [hsplit, List.cons_append]
  · rintro ⟨hfirst, hothers⟩ before c after hsplit
    cases before with
    | nil =>
      cases hsplit
      exact hfirst
    | cons first before =>
      rw [List.cons_append] at hsplit
      exact hothers before c after (List.cons.inj hsplit).2

theorem aheadOfSound_congr {P Q : Beat → Prop} (h : ∀ b ∈ bs, P b ↔ Q b) :
    AheadOfSound P bs ↔ AheadOfSound Q bs := by
  have hmem : ∀ before b after, bs = before ++ b :: after → (P b ↔ Q b) := by
    intro before b after hsplit
    exact h b (hsplit ▸ List.mem_append_right _ (List.mem_cons_self ..))
  constructor
  · intro hahead before b after hsplit hsounds
    exact (hmem before b after hsplit).mp (hahead before b after hsplit hsounds)
  · intro hahead before b after hsplit hsounds
    exact (hmem before b after hsplit).mpr (hahead before b after hsplit hsounds)

/-- The onsets of longer beats are the same exactly when no beat ahead of a sounding one is longer.
The clocks may differ in the induction: a rest puts the longer ones further ahead, and nothing takes
that back. -/
theorem onsets_eq_iff_of_le {late early : Int} (hclock : early ≤ late)
    (hle : ∀ b ∈ bs, other b ≤ length b) :
    onsets length late bs = onsets other early bs
      ↔ ((∃ s ∈ bs, s.tones ≠ []) → late = early)
        ∧ AheadOfSound (fun b => length b = other b) bs := by
  induction bs generalizing late early with
  | nil => simp [onsets, soundings, AheadOfSound]
  | cons b bs ih =>
    have hlonger := hle b (by simp)
    have hnext : early + other b ≤ late + length b := by omega
    have hrest := ih hnext fun c hc => hle c (by simp [hc])
    rw [aheadOfSound_cons]
    by_cases hb : b.tones = []
    · have hsounds : (∃ s ∈ b :: bs, s.tones ≠ []) ↔ ∃ s ∈ bs, s.tones ≠ [] := by simp [hb]
      rw [onsets_rest hb, onsets_rest hb, hrest, hsounds]
      constructor
      · rintro ⟨hclocks, hahead⟩
        refine ⟨fun hs => ?_, fun hs => ?_, hahead⟩
        · have heq := hclocks hs
          omega
        · have heq := hclocks hs
          omega
      · rintro ⟨hclocks, hb, hahead⟩
        exact ⟨fun hs => by rw [hclocks hs, hb hs], hahead⟩
    · have hsounds : ∃ s ∈ b :: bs, s.tones ≠ [] := ⟨b, by simp, hb⟩
      rw [onsets_chord hb, onsets_chord hb, List.cons.injEq, hrest]
      constructor
      · rintro ⟨rfl, hclocks, hahead⟩
        exact ⟨fun _ => rfl, fun hs => Int.add_left_cancel (hclocks hs), hahead⟩
      · rintro ⟨hclocks, hb, hahead⟩
        exact ⟨hclocks hsounds, fun hs => by rw [hclocks hsounds, hb hs], hahead⟩

/-- **Longer beats sound at the same moments exactly if none ahead of a sounding one is longer.** -/
theorem onsets_eq_iff (hle : ∀ b ∈ bs, other b ≤ length b) :
    onsets length clock bs = onsets other clock bs
      ↔ AheadOfSound (fun b => length b = other b) bs := by
  rw [onsets_eq_iff_of_le (Int.le_refl clock) hle, and_iff_right fun _ => rfl]

end Onsets

end SongSheet
