import SongSheet.Proofs.LetterSheet.Units
import SongSheet.Proofs.Pitch
import SongSheet.Proofs.Text.Cut
import SongSheet.Proofs.Traversal

/-!
# The marks of written beats

A beat is written as words: its keys in one word, then a dot for every further unit. Read one after
the other, the words give back keys, dots and the blanks after each word, whatever text follows
(`Spells`). So the key lines of a score are known mark by mark (`spells_body`), before any question
of how the marks are put together.

The writer can fail at a key only. `HasKey` says which tones have one, and `key_eq_ok_iff` that the
writer finds it for exactly those.
-/

set_option autoImplicit false

namespace SongSheet.LetterSheet

/-! ## 1. Keys -/

/-- A tone that a letter sheet has a key for: one of the fifteen naturals from the tonic up. -/
def HasKey (tone : Int) : Prop := ∃ n : Int, Pitch.degree tone = .ok n ∧ 0 ≤ n ∧ n ≤ 14

theorem hasKey_of_degree {tone n : Int} (h : Pitch.degree tone = .ok n) :
    HasKey tone ↔ 0 ≤ n ∧ n ≤ 14 := by
  constructor
  · rintro ⟨m, hm, hrange⟩
    rw [h] at hm
    rwa [Except.ok.inj hm]
  · intro hrange
    exact ⟨n, h, hrange⟩

instance (tone : Int) : Decidable (HasKey tone) :=
  match h : Pitch.degree tone with
  | .ok _ => decidable_of_iff' _ (hasKey_of_degree h)
  | .error _ => .isFalse fun ⟨_, hn, _⟩ => nomatch h.symm.trans hn

/-- The row and the column of a natural. -/
def keyText (n : Nat) : Text := [.ofNat (65 + n / columns), .ofNat (49 + n % columns)]

/-- What the writer says about a natural. -/
theorem key_of_degree {tone n : Int} (h : Pitch.degree tone = .ok n) :
    key tone = if 0 ≤ n ∧ n ≤ 14 then .ok (keyText n.toNat) else .error (.letterNote n) := by
  have hkeys : 3 * (columns : Int) = 15 := rfl
  rw [key, h, ok_bind]
  by_cases hrange : 0 ≤ n ∧ n ≤ 14
  · rw [if_pos hrange]
    exact if_neg (by omega)
  · rw [if_neg hrange]
    exact if_pos (by omega)

theorem key_of_error {tone : Int} {e : SheetError} (h : Pitch.degree tone = .error e) :
    key tone = .error e := by
  rw [key, h]
  rfl

/-- What the writer says about a tone without a key. -/
theorem kind_of_key {tone : Int} {e : SheetError} (h : key tone = .error e) :
    e.kind = .outOfRange := by
  cases hdegree : Pitch.degree tone with
  | error e' =>
    rw [key_of_error hdegree] at h
    rw [Pitch.degree] at hdegree
    split at hdegree
    · cases hdegree
    · rw [← Except.error.inj h, ← Except.error.inj hdegree]
      rfl
  | ok n =>
    rw [key_of_degree hdegree] at h
    split at h
    · cases h
    · rw [← Except.error.inj h]
      rfl

/-- **The writer finds a key for a tone exactly when there is one.** -/
theorem key_eq_ok_iff {tone : Int} {t : Text} :
    key tone = .ok t ↔ ∃ n : Nat, n ≤ 14 ∧ tone = Pitch.ofDegree n ∧ t = keyText n := by
  constructor
  · intro h
    cases hdegree : Pitch.degree tone with
    | error e =>
      rw [key_of_error hdegree] at h
      cases h
    | ok n =>
      rw [key_of_degree hdegree] at h
      split at h
      case isTrue hrange =>
        refine ⟨n.toNat, by omega, ?_, (Except.ok.inj h).symm⟩
        rw [Int.toNat_of_nonneg hrange.1]
        exact Pitch.degree_eq_ok_iff.mp hdegree
      case isFalse => cases h
  · rintro ⟨n, hn, rfl, rfl⟩
    rw [key_of_degree (Pitch.degree_ofDegree n)]
    exact if_pos ⟨by omega, by omega⟩

theorem exists_key_iff {tone : Int} : (∃ t, key tone = .ok t) ↔ HasKey tone := by
  constructor
  · rintro ⟨t, h⟩
    obtain ⟨n, hn, rfl, -⟩ := key_eq_ok_iff.mp h
    exact ⟨n, Pitch.degree_ofDegree n, by omega, by omega⟩
  · rintro ⟨n, hdegree, hrange⟩
    exact ⟨keyText n.toNat, (key_of_degree hdegree).trans (if_pos hrange)⟩

/-! ## 2. Texts and the marks they spell -/

/-- A text is read as these marks, whatever comes after it. -/
def Spells (t : Text) (ms : List Mark) : Prop :=
  ∀ rest, marks (t ++ rest) = (marks rest).map (ms ++ ·)

theorem Spells.nil : Spells [] [] := by
  intro rest
  cases h : marks rest <;> simp [h, Except.map]

theorem Spells.append {t u : Text} {ms ns : List Mark} (ht : Spells t ms) (hu : Spells u ns) :
    Spells (t ++ u) (ms ++ ns) := by
  intro rest
  rw [List.append_assoc, ht (u ++ rest), hu rest]
  cases marks rest <;> simp [Except.map]

/-- Read to the end, a text gives its marks. -/
theorem Spells.marks_eq {t : Text} {ms : List Mark} (h : Spells t ms) : marks t = .ok ms := by
  have hend := h []
  rw [List.append_nil] at hend
  rw [hend, marks]
  exact congrArg Except.ok (List.append_nil ms)

theorem spells_blank : Spells " " [.blank] := by
  intro rest
  exact (marks.eq_def _).trans rfl

theorem spells_dot : Spells "." [.dot] := by
  intro rest
  exact (marks.eq_def _).trans (if_pos rfl)

/-- A key is read as the tone it stands for. -/
theorem spells_key {tone : Int} {t : Text} (h : key tone = .ok t) : Spells t [.key tone] := by
  obtain ⟨n, hn, rfl, rfl⟩ := key_eq_ok_iff.mp h
  -- What the reader looks at in turn: no dot, a row, a column.
  have hkeys : ∀ n < 15, (CodePoint.ofNat (65 + n / columns) ≠ '.')
      ∧ row? (.ofNat (65 + n / columns)) = some (n / columns)
      ∧ column? (.ofNat (49 + n % columns)) = some (n % columns) := by decide
  obtain ⟨hdot, hrow, hcolumn⟩ := hkeys n (by omega)
  have hnumber : n / columns * columns + n % columns = n := by
    rw [Nat.mul_comm]
    exact Nat.div_add_mod n columns
  intro rest
  rw [keyText, List.cons_append, List.singleton_append, marks.eq_def]
  simp only [if_neg hdot, hrow, hcolumn, hnumber]
  rfl

/-! ## 3. Chords and dots -/

/-- The keys of a chord, one after the other. -/
theorem spells_keys {tones : List Int} {keys : List Text} (h : tones.mapM key = .ok keys) :
    Spells keys.flatten (tones.map .key) := by
  have hkeys := mapM_eq_ok_iff.mp h
  induction hkeys with
  | nil => exact Spells.nil
  | cons hkey hkeys ih => exact (spells_key hkey).append (ih (mapM_eq_ok_iff.mpr hkeys))

theorem isWord_of_key {tone : Int} {t : Text} (h : key tone = .ok t) : Text.IsWord t := by
  obtain ⟨n, hn, -, rfl⟩ := key_eq_ok_iff.mp h
  have hkeys : ∀ n < 15, ∀ c ∈ keyText n, c.isBlank = false := by decide
  exact ⟨List.cons_ne_nil _ _, hkeys n (by omega)⟩

/-- A chord is one word. -/
theorem isWord_of_keys {tones : List Int} {keys : List Text} (hne : tones ≠ [])
    (h : tones.mapM key = .ok keys) : Text.IsWord keys.flatten := by
  have hwords : ∀ t ∈ keys, Text.IsWord t := by
    intro t ht
    obtain ⟨tone, -, hkey⟩ := exists_related_of_mem (mapM_eq_ok_iff.mp h) ht
    exact isWord_of_key hkey
  cases keys with
  | nil => exact absurd (List.forall₂_nil_right_iff.mp (mapM_eq_ok_iff.mp h)) hne
  | cons t keys =>
    constructor
    · simp [(hwords t (by simp)).1]
    · intro c hc
      obtain ⟨u, hu, hc⟩ := List.mem_flatten.mp hc
      exact (hwords u hu).2 c hc

/-- So many dots as words. -/
def dotWords (n : Nat) : List Text := List.replicate n "."

/-- So many dots, each with the blank after it. -/
def dotMarks (n : Nat) : List Mark := (List.replicate n [.dot, .blank]).flatten

theorem spells_dots (n : Nat) :
    Spells ((dotWords n).flatMap (· ++ (" " : Text))) (dotMarks n) := by
  induction n with
  | zero => exact Spells.nil
  | succ n ih =>
    rw [dotMarks, dotWords, List.replicate_succ, List.replicate_succ, List.flatMap_cons,
      List.flatten_cons]
    exact (spells_dot.append spells_blank).append ih

/-- The marks of a beat that takes so many units. -/
def beatMarks (length : Int) (tones : List Int) : List Mark :=
  if length ≤ 0 then []
  else if tones.isEmpty then dotMarks length.toNat
  else tones.map .key ++ .blank :: dotMarks (length - 1).toNat

theorem beatWords_eq {n : Nat} {b : Beat} (hden : 0 < b.rate.den) (hn : b.rate.value.den ∣ n) :
    beatWords n b
      = if unitsOf n b ≤ 0 then .ok []
        else if b.tones.isEmpty then .ok (dotWords (unitsOf n b).toNat)
        else (b.tones.mapM key).map (·.flatten :: dotWords (unitsOf n b - 1).toNat) := by
  rw [beatWords, units_eq hden hn]
  simp only [bind, Except.bind, pure, Except.pure]
  split
  · rfl
  · split
    · rfl
    · cases b.tones.mapM key <;> rfl

/-- The words of a beat spell its marks. -/
theorem spells_beat {n : Nat} {b : Beat} {ws : List Text} (hden : 0 < b.rate.den)
    (hn : b.rate.value.den ∣ n) (h : beatWords n b = .ok ws) :
    Spells (ws.flatMap (· ++ (" " : Text))) (beatMarks (unitsOf n b) b.tones) := by
  rw [beatWords_eq hden hn] at h
  rw [beatMarks]
  by_cases hlength : unitsOf n b ≤ 0
  · rw [if_pos hlength] at h
    rw [if_pos hlength, ← Except.ok.inj h]
    exact Spells.nil
  · rw [if_neg hlength] at h
    rw [if_neg hlength]
    by_cases hempty : b.tones.isEmpty
    · rw [if_pos hempty] at h
      rw [if_pos hempty, ← Except.ok.inj h]
      exact spells_dots _
    · rw [if_neg hempty] at h
      rw [if_neg hempty]
      obtain ⟨keys, hkeys, rfl⟩ := map_eq_ok h
      rw [List.flatMap_cons, List.append_cons]
      exact ((spells_keys hkeys).append spells_blank).append (spells_dots _)

/-! ## 4. Scores -/

/-- The marks of beats that take so long each. -/
def marksOf (length : Beat → Int) (bs : List Beat) : List Mark :=
  bs.flatMap fun b => beatMarks (length b) b.tones

theorem marksOf_cons (length : Beat → Int) (b : Beat) (bs : List Beat) :
    marksOf length (b :: bs) = beatMarks (length b) b.tones ++ marksOf length bs :=
  List.flatMap_cons

/-- A beat that takes no time leaves no mark. -/
theorem marksOf_filter {n : Nat} (hn : 0 < n) (bs : List Beat) :
    marksOf (unitsOf n) (bs.filter (·.Lasts)) = marksOf (unitsOf n) bs := by
  induction bs with
  | nil => rfl
  | cons b bs ih =>
    rw [marksOf_cons, List.filter_cons]
    by_cases hb : b.Lasts
    · rw [if_pos (decide_eq_true hb), marksOf_cons, ih]
    · have hunits : unitsOf n b ≤ 0 := Int.not_lt.mp fun h => hb ((unitsOf_pos hn).mp h)
      rw [if_neg (by simpa using hb), ih, beatMarks, if_pos hunits, List.nil_append]

section

variable {beats : List Beat}

/-- The words of a score spell the marks of its beats, in order. -/
theorem spells_beats {n : Nat} (h : ∀ b ∈ beats, 0 < b.rate.den ∧ b.rate.value.den ∣ n)
    {wss : List (List Text)} (hwss : beats.mapM (beatWords n) = .ok wss) :
    Spells (wss.flatten.flatMap (· ++ (" " : Text))) (marksOf (unitsOf n) beats) := by
  have hwords := mapM_eq_ok_iff.mp hwss
  clear hwss
  induction hwords with
  | nil => exact Spells.nil
  | @cons b ws beats wss hws hwords ih =>
    obtain ⟨hden, hdvd⟩ := h b (by simp)
    rw [List.flatten_cons, List.flatMap_append, marksOf_cons]
    exact (spells_beat hden hdvd hws).append (ih fun c hc => h c (by simp [hc]))

/-- A beat has words unless it takes time and one of its tones has no key. -/
theorem exists_beatWords_iff {n : Nat} {b : Beat} (hn : 0 < n) (hden : 0 < b.rate.den)
    (hdvd : b.rate.value.den ∣ n) :
    (∃ ws, beatWords n b = .ok ws) ↔ (b.Lasts → ∀ tone ∈ b.tones, HasKey tone) := by
  have hkeys : (∃ keys, b.tones.mapM key = .ok keys) ↔ ∀ tone ∈ b.tones, HasKey tone := by
    rw [exists_mapM_iff]
    exact forall₂_congr fun tone _ => exists_key_iff
  rw [beatWords_eq hden hdvd, ← unitsOf_pos hn, ← hkeys]
  by_cases hlength : unitsOf n b ≤ 0
  · rw [if_pos hlength]
    exact ⟨fun _ hlasts => absurd hlasts hlength.not_gt, fun _ => ⟨_, rfl⟩⟩
  · rw [if_neg hlength]
    by_cases hempty : b.tones.isEmpty
    · rw [if_pos hempty, List.isEmpty_iff.mp hempty]
      exact ⟨fun _ _ => ⟨_, rfl⟩, fun _ => ⟨_, rfl⟩⟩
    · rw [if_neg hempty]
      constructor
      · rintro ⟨ws, hws⟩ -
        obtain ⟨keys, hmapM, -⟩ := map_eq_ok hws
        exact ⟨keys, hmapM⟩
      · intro h
        obtain ⟨keys, hmapM⟩ := h (Int.not_le.mp hlength)
        rw [hmapM]
        exact ⟨_, rfl⟩

/-- What the writer says about a beat without words. -/
theorem kind_of_beatWords {n : Nat} {b : Beat} {e : SheetError} (hden : 0 < b.rate.den)
    (hdvd : b.rate.value.den ∣ n) (h : beatWords n b = .error e) : e.kind = .outOfRange := by
  rw [beatWords_eq hden hdvd] at h
  split at h
  · cases h
  · split at h
    · cases h
    · obtain ⟨tone, -, htone⟩ := exists_error_of_mapM (error_of_map h)
      exact kind_of_key htone

/-- What a beat is written with are words. -/
theorem isWord_of_beatWords {n : Nat} {b : Beat} {ws : List Text} (hden : 0 < b.rate.den)
    (hdvd : b.rate.value.den ∣ n) (h : beatWords n b = .ok ws) : ∀ w ∈ ws, Text.IsWord w := by
  have hdots : ∀ k, ∀ w ∈ dotWords k, Text.IsWord w := by
    intro k w hw
    rw [List.eq_of_mem_replicate hw]
    exact ⟨by decide, by decide⟩
  rw [beatWords_eq hden hdvd] at h
  split at h
  · cases h
    intro w hw
    cases hw
  · split at h
    · rw [← Except.ok.inj h]
      exact hdots _
    · rename_i hempty
      obtain ⟨keys, hkeys, rfl⟩ := map_eq_ok h
      intro w hw
      rcases List.mem_cons.mp hw with rfl | hw
      · exact isWord_of_keys (by simpa using hempty) hkeys
      · exact hdots _ w hw

/-- A beat that takes time has a word at least. -/
theorem beatWords_ne_nil {n : Nat} {b : Beat} {ws : List Text} (hn : 0 < n)
    (hden : 0 < b.rate.den) (hdvd : b.rate.value.den ∣ n) (hlasts : b.Lasts)
    (h : beatWords n b = .ok ws) : ws ≠ [] := by
  have hlength : 0 < unitsOf n b := (unitsOf_pos hn).mpr hlasts
  rw [beatWords_eq hden hdvd, if_neg hlength.not_ge] at h
  split at h
  · rw [← Except.ok.inj h]
    intro hnil
    rw [dotWords, List.replicate_eq_nil_iff] at hnil
    omega
  · obtain ⟨keys, -, rfl⟩ := map_eq_ok h
    exact List.cons_ne_nil _ _

end

end SongSheet.LetterSheet
