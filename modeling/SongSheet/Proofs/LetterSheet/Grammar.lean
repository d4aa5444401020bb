import SongSheet.Proofs.LetterSheet.Beats
import SongSheet.Proofs.LetterSheet.Chords

/-!
# The grammar of key lines

Key lines are keys, dots and blanks in any order, and **they are read exactly if they are that**
(`marks_eq_ok_iff`). This module says it from the grammar's side. Every sequence of these has one
form as a passage, in which the keys that stand together are one run, and its beats are written down
from there: the marks and the order in which they are gathered do not come up.

Lines that are no such sequence break off, and where they do is a property of the text alone: up to
there it could still have gone on to be key lines, and with one more code point it could not
(`Viable`). A row at the end is the one case without such a code point: more text would have helped,
but there is none, and the fault is laid to the row itself.
-/

set_option autoImplicit false

namespace SongSheet.LetterSheet

/-! ## 1. Tokens -/

/-- What stands between the runs of keys. -/
inductive Pause where
  | dot
  | blank (c : CodePoint) (isBlank : c.isBlank = true)

/-- What key lines are made of. -/
inductive Token where
  | key (row : Fin 3) (column : Fin 5)
  | pause (p : Pause)

/-- The letter of a row, from A to C. -/
def rowLetter (row : Fin 3) : CodePoint := .ofNat (65 + row)

/-- The digit of a column, from 1 to 5. -/
def columnDigit (column : Fin 5) : CodePoint := .ofNat (49 + column)

def Pause.text : Pause → Text
  | dot => "."
  | blank c _ => [c]

def Token.text : Token → Text
  | key row column => [rowLetter row, columnDigit column]
  | pause p => p.text

/-- Tokens one after the other. -/
def spelling (tokens : List Token) : Text := tokens.flatMap Token.text

def Pause.mark : Pause → Mark
  | dot => .dot
  | blank .. => .blank

/-- The pitch of a key: the naturals from the tonic up, five to a row. -/
def keyPitch (row : Fin 3) (column : Fin 5) : Int := Pitch.ofDegree (5 * row + column : Nat)

def Token.mark : Token → Mark
  | key row column => .key (keyPitch row column)
  | pause p => p.mark

/-! ## 2. What is read is what is spelled -/

theorem row?_rowLetter : ∀ row : Fin 3,
    rowLetter row ≠ '.' ∧ row? (rowLetter row) = some (row : Nat) := by
  decide

theorem column?_columnDigit : ∀ column : Fin 5,
    column? (columnDigit column) = some (column : Nat) := by
  decide

theorem eq_rowLetter {c : CodePoint} {row : Nat} (h : row? c = some row) :
    ∃ r : Fin 3, row = r ∧ c = rowLetter r := by
  have hlt := lt_of_row? h
  rw [row?] at h
  split at h
  case isTrue hbetween =>
    have hlow : 'A'.toNat = 65 := rfl
    simp only [CodePoint.between, Bool.and_eq_true, decide_eq_true_eq] at hbetween
    cases h
    refine ⟨⟨c.val - 65, hlt⟩, rfl, ?_⟩
    have hval : 65 + (c.val - 65) = c.val := by omega
    rw [rowLetter, hval, CodePoint.ofNat, dif_pos c.isLt]
  case isFalse => cases h

theorem eq_columnDigit {c : CodePoint} {column : Nat} (h : column? c = some column) :
    ∃ d : Fin 5, column = d ∧ c = columnDigit d := by
  have hlt := lt_of_column? h
  rw [column?] at h
  split at h
  case isTrue hbetween =>
    have hlow : '1'.toNat = 49 := rfl
    simp only [CodePoint.between, Bool.and_eq_true, decide_eq_true_eq] at hbetween
    cases h
    refine ⟨⟨c.val - 49, hlt⟩, rfl, ?_⟩
    have hval : 49 + (c.val - 49) = c.val := by omega
    rw [columnDigit, hval, CodePoint.ofNat, dif_pos c.isLt]
  case isFalse => cases h

/-- No blank is a dot or a row. -/
theorem of_isBlank {c : CodePoint} (h : c.isBlank = true) : c ≠ '.' ∧ row? c = none := by
  constructor
  · rintro rfl
    exact absurd h (by decide)
  · cases hrow : row? c with
    | none => rfl
    | some row =>
      obtain ⟨r, -, rfl⟩ := eq_rowLetter hrow
      have hrows : ∀ r : Fin 3, (rowLetter r).isBlank = false := by decide
      rw [hrows r] at h
      cases h

theorem spells_token (token : Token) : Spells token.text [token.mark] := by
  intro rest
  cases token with
  | key row column =>
    obtain ⟨hdot, hrow⟩ := row?_rowLetter row
    have hnumber : (row : Nat) * columns + column = 5 * row + column := by
      rw [columns, Nat.mul_comm]
    rw [Token.text, List.cons_append, List.singleton_append, marks.eq_def]
    simp only [if_neg hdot, hrow, column?_columnDigit, hnumber]
    rfl
  | pause p =>
    cases p with
    | dot => exact spells_dot rest
    | blank c hblank =>
      obtain ⟨hdot, hrow⟩ := of_isBlank hblank
      rw [Token.text, Pause.text, List.singleton_append, marks.eq_def]
      simp only [if_neg hdot, hrow, if_pos hblank]
      rfl

theorem spells_spelling (tokens : List Token) :
    Spells (spelling tokens) (tokens.map Token.mark) := by
  induction tokens with
  | nil => exact Spells.nil
  | cons token tokens ih => exact (spells_token token).append ih

/-- **A text is read as marks exactly if it is spelled from their tokens.** -/
theorem marks_eq_ok_iff {t : Text} {ms : List Mark} :
    marks t = .ok ms ↔ ∃ tokens, t = spelling tokens ∧ ms = tokens.map Token.mark := by
  constructor
  · intro h
    fun_induction marks t generalizing ms with
    | case1 => exact ⟨[], rfl, (Except.ok.inj h).symm⟩
    | case2 t ih =>
      obtain ⟨ms, hms, rfl⟩ := map_eq_ok h
      obtain ⟨tokens, rfl, rfl⟩ := ih hms
      exact ⟨.pause .dot :: tokens, rfl, rfl⟩
    | case3 c t hdot hrow hblank ih =>
      obtain ⟨ms, hms, rfl⟩ := map_eq_ok h
      obtain ⟨tokens, rfl, rfl⟩ := ih hms
      exact ⟨.pause (.blank c hblank) :: tokens, rfl, rfl⟩
    | case4 | case5 | case6 => cases h
    | case7 c hdot row hrow d u column hcolumn ih =>
      obtain ⟨ms, hms, rfl⟩ := map_eq_ok h
      obtain ⟨tokens, rfl, rfl⟩ := ih hms
      obtain ⟨r, rfl, rfl⟩ := eq_rowLetter hrow
      obtain ⟨e, rfl, rfl⟩ := eq_columnDigit hcolumn
      refine ⟨.key r e :: tokens, rfl, ?_⟩
      rw [columns, Nat.mul_comm, List.map_cons]
      rfl
  · rintro ⟨tokens, rfl, rfl⟩
    exact (spells_spelling tokens).marks_eq

/-! ## 3. Where a text breaks off -/

/-- Key lines: tokens and nothing else. -/
def IsKeyLines (t : Text) : Prop := ∃ tokens, t = spelling tokens

/-- A text that may still become key lines, if it goes on in the right way. -/
def Viable (t : Text) : Prop := ∃ u, IsKeyLines (t ++ u)

theorem isKeyLines_iff {t : Text} : IsKeyLines t ↔ ∃ ms, marks t = .ok ms := by
  constructor
  · rintro ⟨tokens, ht⟩
    exact ⟨_, marks_eq_ok_iff.mpr ⟨tokens, ht, rfl⟩⟩
  · rintro ⟨ms, hms⟩
    obtain ⟨tokens, ht, -⟩ := marks_eq_ok_iff.mp hms
    exact ⟨tokens, ht⟩

/-- A token in front makes no difference. -/
theorem isKeyLines_append {token : Token} {t : Text} :
    IsKeyLines (token.text ++ t) ↔ IsKeyLines t := by
  rw [isKeyLines_iff, isKeyLines_iff, spells_token token t]
  cases marks t with
  | ok ms => exact iff_of_true ⟨_, rfl⟩ ⟨_, rfl⟩
  | error left => exact iff_of_false nofun nofun

theorem viable_append {token : Token} {t : Text} : Viable (token.text ++ t) ↔ Viable t := by
  unfold Viable
  simp only [List.append_assoc, isKeyLines_append]

theorem not_isKeyLines {t left : Text} (h : marks t = .error left) : ¬IsKeyLines t := by
  intro ht
  obtain ⟨ms, hms⟩ := isKeyLines_iff.mp ht
  cases hms.symm.trans h

/-- A text that is refused whatever comes behind it is not viable. -/
theorem not_viable {t : Text} (h : ∀ u, ∃ left, marks (t ++ u) = .error left) : ¬Viable t := by
  rintro ⟨u, hu⟩
  obtain ⟨left, hleft⟩ := h u
  exact not_isKeyLines hleft hu

/-- The index at which a text breaks off: the first code point that key lines cannot go on with, or
a row behind which the text ends. -/
inductive BreaksAt (t : Text) : Nat → Prop
  | char {index : Nat} (hlt : index < t.length) (hviable : Viable (t.take index))
      (hnot : ¬Viable (t.take (index + 1))) : BreaksAt t index
  | row (tokens : List Token) (row : Fin 3) (h : t = spelling tokens ++ [rowLetter row]) :
      BreaksAt t (spelling tokens).length

theorem BreaksAt.append (token : Token) {t : Text} {index : Nat} (h : BreaksAt t index) :
    BreaksAt (token.text ++ t) (token.text.length + index) := by
  cases h with
  | char hlt hviable hnot =>
    refine .char ?_ ?_ ?_
    · rw [List.length_append]
      omega
    · rwa [List.take_length_add_append, viable_append]
    · rwa [Nat.add_assoc, List.take_length_add_append, viable_append]
  | row tokens row h =>
    have hindex : (spelling (token :: tokens)).length
        = token.text.length + (spelling tokens).length := List.length_append
    rw [← hindex]
    exact .row (token :: tokens) row (by rw [h, ← List.append_assoc]; rfl)

/-- **A text that is refused breaks off** where the reader stops. -/
theorem breaksAt_of_marks {t left : Text} (h : marks t = .error left) :
    ∃ before, t = before ++ left ∧ BreaksAt t before.length := by
  -- What is read before the break stands in front of it.
  have hfront : ∀ (token : Token) {t : Text}, (∃ before, t = before ++ left
      ∧ BreaksAt t before.length) →
      ∃ before, token.text ++ t = before ++ left ∧ BreaksAt (token.text ++ t) before.length := by
    rintro token t ⟨before, rfl, hbreak⟩
    refine ⟨token.text ++ before, (List.append_assoc ..).symm, ?_⟩
    rw [List.length_append]
    exact hbreak.append token
  fun_induction marks t with
  | case1 => cases h
  | case2 t ih => exact hfront (.pause .dot) (ih (error_of_map h))
  | case3 c t hdot hrow hblank ih => exact hfront (.pause (.blank c hblank)) (ih (error_of_map h))
  | case4 c t hdot hrow hblank =>
    cases h
    refine ⟨[], rfl, .char (Nat.zero_lt_succ _) ⟨[], [], rfl⟩ (not_viable fun u => ⟨c :: u, ?_⟩)⟩
    show marks (c :: u) = .error (c :: u)
    rw [marks.eq_def]
    simp only [if_neg hdot, hrow, if_neg hblank]
  | case5 c hdot row hrow =>
    cases h
    obtain ⟨r, -, rfl⟩ := eq_rowLetter hrow
    exact ⟨[], rfl, .row [] r rfl⟩
  | case6 c hdot row hrow d u hcolumn =>
    cases h
    obtain ⟨r, -, rfl⟩ := eq_rowLetter hrow
    refine ⟨[rowLetter r], rfl, .char (by simp) ⟨[columnDigit 0], [.key r 0], rfl⟩
      (not_viable fun v => ⟨d :: v, ?_⟩)⟩
    show marks (rowLetter r :: d :: v) = .error (d :: v)
    rw [marks.eq_def]
    simp only [if_neg hdot, hrow, hcolumn]
  | case7 c hdot row hrow d u column hcolumn ih =>
    obtain ⟨r, -, rfl⟩ := eq_rowLetter hrow
    obtain ⟨e, -, rfl⟩ := eq_columnDigit hcolumn
    exact hfront (.key r e) (ih (error_of_map h))

/-- The line and the column of an index in the key lines: the first of these is the second line of
the sheet, and a column is the distance from the last line feed, or from the place before the
text. -/
structure StandsAt (t : Text) (index line column : Nat) : Prop where
  line : line = 2 + (t.take index).count (.ofChar '\n')
  column : (∃ feed < index, column = index - feed ∧ t[feed]? = some (.ofChar '\n')
      ∧ ∀ i, feed < i → i < index → t[i]? ≠ some (.ofChar '\n'))
    ∨ (column = index + 1 ∧ ∀ i < index, t[i]? ≠ some (.ofChar '\n'))

theorem standsAt_lineColumn {t : Text} {index : Nat} (h : index ≤ t.length) :
    StandsAt t index ((t.lineColumn index).1 + 1) (t.lineColumn index).2 := by
  have hlength : (t.take index).length = index := List.length_take_of_le h
  have hget : ∀ i < index, (t.take index)[i]? = t[i]? := fun i hi => List.getElem?_take_of_lt hi
  refine ⟨by rw [Text.lineColumn]; omega, ?_⟩
  rw [Text.lineColumn]
  dsimp only
  generalize t.take index = before at hlength hget ⊢
  by_cases hfeed : .ofChar '\n' ∈ before
  · -- The text behind the last line feed is what is taken from the end.
    obtain ⟨after, front, hreverse, hafter⟩ :=
      List.eq_append_cons_of_mem (List.mem_reverse.mpr hfeed)
    have hbefore : before = front.reverse ++ .ofChar '\n' :: after.reverse := by
      rw [← List.reverse_reverse before, hreverse]
      simp
    have htaken : (before.reverse.takeWhile fun c => c ≠ .ofChar '\n') = after := by
      rw [hreverse, List.takeWhile_append_of_pos fun c hc => by
        have hne : c ≠ .ofChar '\n' := fun heq => hafter (heq ▸ hc)
        simpa using hne]
      simp
    have hsum : front.length + (after.length + 1) = index := by
      rw [← hlength, hbefore]
      simp
    refine .inl ⟨front.length, by omega, by rw [htaken]; omega, ?_, fun i hlow hhigh => ?_⟩
    · rw [← hget _ (by omega), hbefore]
      simp
    · have hle : (front.reverse ++ [CodePoint.ofChar '\n']).length ≤ i := by
        rw [List.length_append, List.length_reverse]
        exact hlow
      rw [← hget i hhigh, hbefore, List.append_cons, List.getElem?_append_right hle]
      exact fun hi => hafter (List.mem_reverse.mp (List.mem_of_getElem? hi))
  · refine .inr ⟨?_, fun i hi => ?_⟩
    · have htaken : (before.reverse.takeWhile fun c => c ≠ .ofChar '\n') = before.reverse := by
        rw [List.takeWhile_eq_self_iff]
        intro c hc
        have hne : c ≠ .ofChar '\n' := fun heq => hfeed (heq ▸ List.mem_reverse.mp hc)
        simpa using hne
      rw [htaken, List.length_reverse, hlength]
    · rw [← hget i hi]
      exact fun hfound => hfeed (List.mem_of_getElem? hfound)

/-! ## 4. Passages -/

/-- Keys that stand together, and the pauses behind them. -/
structure Run where
  keys : List (Fin 3 × Fin 5)
  pauses : List Pause
  keys_ne_nil : keys ≠ []

/-- Tokens with the keys that stand together in runs. Between two runs there is a pause, so none of
them could be longer. -/
structure Passage where
  lead : List Pause
  runs : List Run
  apart : ∀ run ∈ runs.dropLast, run.pauses ≠ []

def Run.tokens (run : Run) : List Token :=
  run.keys.map (fun key => .key key.1 key.2) ++ run.pauses.map .pause

def Passage.tokens (p : Passage) : List Token := p.lead.map .pause ++ p.runs.flatMap Run.tokens

def Passage.text (p : Passage) : Text := spelling p.tokens

def Pause.isDot : Pause → Bool
  | dot => true
  | blank .. => false

/-- The dots among pauses. -/
def dots (pauses : List Pause) : Nat := pauses.countP Pause.isDot

@[simp] theorem dots_cons_dot (pauses : List Pause) : dots (.dot :: pauses) = dots pauses + 1 :=
  List.countP_cons_of_pos rfl

@[simp] theorem dots_cons_blank {c : CodePoint} {h : c.isBlank = true} (pauses : List Pause) :
    dots (.blank c h :: pauses) = dots pauses :=
  List.countP_cons_of_neg Bool.false_ne_true

/-- A run as a beat: one unit and the given dots, the pitches of its keys, each once. -/
def Run.beat (run : Run) (dots : Nat) : Beat :=
  { rate := .ofInt (1 + dots)
    tones := (run.keys.map fun key => keyPitch key.1 key.2).eraseDups }

/-- **The beats of a passage**: a rest for the dots in front, then every run with the dots up to the
next one; behind the last one there are three dots at least. Without a run there is no beat. -/
def Passage.beats (p : Passage) : List Beat :=
  if p.runs = [] then []
  else
    (if dots p.lead = 0 then [] else [{ rate := .ofInt (dots p.lead), tones := [] }])
      ++ p.runs.dropLast.map (fun run => run.beat (dots run.pauses))
      ++ p.runs.getLast?.toList.map fun run => run.beat (max 3 (dots run.pauses))

theorem apart_cons_iff {run : Run} {runs : List Run} :
    (∀ r ∈ (run :: runs).dropLast, r.pauses ≠ [])
      ↔ (runs ≠ [] → run.pauses ≠ []) ∧ ∀ r ∈ runs.dropLast, r.pauses ≠ [] := by
  cases runs with
  | nil => simp
  | cons next runs => simp

/-- **Tokens are a passage**: a key joins the run that it stands in front of, or it is a run of its
own. -/
theorem exists_passage (tokens : List Token) : ∃ p : Passage, p.tokens = tokens := by
  induction tokens with
  | nil => exact ⟨⟨[], [], nofun⟩, rfl⟩
  | cons token tokens ih =>
    obtain ⟨⟨lead, runs, apart⟩, rfl⟩ := ih
    cases token with
    | pause pause => exact ⟨⟨pause :: lead, runs, apart⟩, rfl⟩
    | key row column =>
      cases lead with
      | cons pause lead =>
        exact ⟨⟨[], ⟨[(row, column)], pause :: lead, List.cons_ne_nil _ _⟩ :: runs,
          apart_cons_iff.mpr ⟨fun _ => List.cons_ne_nil _ _, apart⟩⟩, rfl⟩
      | nil =>
        cases runs with
        | nil => exact ⟨⟨[], [⟨[(row, column)], [], List.cons_ne_nil _ _⟩], nofun⟩, rfl⟩
        | cons run runs =>
          obtain ⟨hrun, hruns⟩ := apart_cons_iff.mp apart
          exact ⟨⟨[], ⟨(row, column) :: run.keys, run.pauses, List.cons_ne_nil _ _⟩ :: runs,
            apart_cons_iff.mpr ⟨hrun, hruns⟩⟩, rfl⟩

/-! ## 5. What is gathered from a passage -/

theorem gather_pauses (pauses : List Pause) (rest : List Mark) :
    gather (pauses.map Pause.mark ++ rest)
      = ⟨dots pauses + (gather rest).lead, pauses.isEmpty && (gather rest).opensWithKey,
        (gather rest).chords⟩ := by
  induction pauses with
  | nil => simp [dots]
  | cons pause pauses ih =>
    rw [List.map_cons, List.cons_append]
    cases pause with
    | dot =>
      rw [Pause.mark, gather, ih]
      simp [Nat.add_right_comm]
    | blank c hblank =>
      rw [Pause.mark, gather, ih]
      simp

/-- A run as it is gathered. -/
def Run.chord (run : Run) : Chord :=
  ⟨run.keys.map fun key => keyPitch key.1 key.2, dots run.pauses⟩

theorem Run.map_mark_tokens (run : Run) :
    run.tokens.map Token.mark = run.chord.tones.map .key ++ run.pauses.map Pause.mark := by
  simp [Run.tokens, Run.chord, Token.mark, Function.comp_def]

/-- The runs of a passage are the chords that are gathered. -/
theorem gather_runs {runs : List Run} (h : ∀ run ∈ runs.dropLast, run.pauses ≠ []) :
    gather ((runs.flatMap Run.tokens).map Token.mark)
      = ⟨0, !runs.isEmpty, runs.map Run.chord⟩ := by
  induction runs with
  | nil => rfl
  | cons run runs ih =>
    obtain ⟨hpauses, hruns⟩ := apart_cons_iff.mp h
    have hpause := gather_pauses run.pauses ((runs.flatMap Run.tokens).map Token.mark)
    rw [ih hruns] at hpause
    -- Behind the pauses of a run, or behind the last run, there is no key that would join it.
    have hends : (run.pauses.isEmpty && !runs.isEmpty) = false := by
      cases runs with
      | nil => simp
      | cons next runs => simpa using hpauses (List.cons_ne_nil _ _)
    have hne : run.chord.tones ≠ [] := by simpa [Run.chord] using run.keys_ne_nil
    rw [List.flatMap_cons, List.map_append, run.map_mark_tokens, List.append_assoc,
      gather_keys hne (by rw [hpause, hends]), hpause]
    rfl

theorem gather_passage (p : Passage) :
    gather (p.tokens.map Token.mark)
      = ⟨dots p.lead, p.lead.isEmpty && !p.runs.isEmpty, p.runs.map Run.chord⟩ := by
  have hlead : (p.lead.map Token.pause).map Token.mark = p.lead.map Pause.mark := by
    simp [Token.mark, Function.comp_def]
  rw [Passage.tokens, List.map_append, hlead, gather_pauses, gather_runs p.apart]
  rfl

theorem chordBeats_map (runs : List Run) : chordBeats (runs.map Run.chord)
    = runs.dropLast.map (fun run => run.beat (dots run.pauses))
      ++ runs.getLast?.toList.map fun run => run.beat (max 3 (dots run.pauses)) := by
  induction runs with
  | nil => rfl
  | cons run runs ih =>
    cases runs with
    | nil => rfl
    | cons next runs =>
      rw [List.getLast?_cons_cons, List.dropLast_cons_cons, List.map_cons, chordBeats, ih]
      · rfl
      · exact List.cons_ne_nil _ _

/-- **What is gathered from a passage are its beats.** -/
theorem beats_passage (p : Passage) : beats (gather (p.tokens.map Token.mark)) = p.beats := by
  obtain ⟨lead, runs, apart⟩ := p
  rw [gather_passage]
  unfold beats Passage.beats
  cases runs with
  | nil => rfl
  | cons run runs =>
    rw [if_neg (List.cons_ne_nil _ _), List.append_assoc, ← chordBeats_map (run :: runs)]
    show (if dots lead = 0 then chordBeats ((run :: runs).map Run.chord)
      else { rate := .ofInt (dots lead) } :: chordBeats ((run :: runs).map Run.chord)) = _
    by_cases hlead : dots lead = 0
    · rw [if_pos hlead, if_pos hlead, List.nil_append]
    · rw [if_neg hlead, if_neg hlead, List.singleton_append]

/-! ## 6. What is read -/

theorem readKeys_of_passage (p : Passage) : readKeys p.text = .ok p.beats := by
  have hmarks : marks p.text = .ok (p.tokens.map Token.mark) :=
    marks_eq_ok_iff.mpr ⟨p.tokens, rfl, rfl⟩
  rw [readKeys, hmarks]
  exact congrArg Except.ok (beats_passage p)

theorem readKeys_of_not_isKeyLines {k : Text} (h : ¬IsKeyLines k) :
    ∃ e index line column, readKeys k = .error e ∧ e.kind = .malformed
      ∧ e.place = ⟨some index, some line, some column⟩ ∧ BreaksAt k index
      ∧ StandsAt k index line column := by
  cases hmarks : marks k with
  | ok ms => exact absurd (isKeyLines_iff.mpr ⟨ms, hmarks⟩) h
  | error left =>
    obtain ⟨before, rfl, hbreak⟩ := breaksAt_of_marks hmarks
    have hindex : (before ++ left).length - left.length = before.length := by
      rw [List.length_append, Nat.add_sub_cancel]
    have hle : before.length ≤ (before ++ left).length := by
      rw [List.length_append]
      exact Nat.le_add_right _ _
    refine ⟨fault (before ++ left) left, before.length, _, _, ?_, rfl, ?_, hbreak,
      standsAt_lineColumn hle⟩
    · rw [readKeys, hmarks]
    · rw [fault, hindex]
      rfl

/-- **What key lines are, and what they mean.** They are read exactly if they are tokens; then they
are a passage, and whatever passage they are, its beats are read. Otherwise the fault is where they
break off. -/
theorem readKeys_spec (k : Text) :
    ((∃ bs, readKeys k = .ok bs) ↔ IsKeyLines k)
    ∧ (IsKeyLines k → ∃ p : Passage, k = p.text)
    ∧ (∀ p : Passage, k = p.text → readKeys k = .ok p.beats)
    ∧ (¬IsKeyLines k → ∃ e index line column, readKeys k = .error e ∧ e.kind = .malformed
        ∧ e.place = ⟨some index, some line, some column⟩ ∧ BreaksAt k index
        ∧ StandsAt k index line column) := by
  have hpassage : IsKeyLines k → ∃ p : Passage, k = p.text := by
    rintro ⟨tokens, rfl⟩
    obtain ⟨p, rfl⟩ := exists_passage tokens
    exact ⟨p, rfl⟩
  refine ⟨⟨?_, ?_⟩, hpassage, ?_, readKeys_of_not_isKeyLines⟩
  · rintro ⟨bs, hbs⟩
    by_contra hnot
    obtain ⟨e, index, line, column, he, -⟩ := readKeys_of_not_isKeyLines hnot
    cases hbs.symm.trans he
  · intro h
    obtain ⟨p, rfl⟩ := hpassage h
    exact ⟨_, readKeys_of_passage p⟩
  · rintro p rfl
    exact readKeys_of_passage p

/-- A rest in front, a chord with a key that comes twice, and a short last chord; a code point that
no token begins with, on the second of the lines; and a row at the end. -/
theorem readKeys_spec_samples :
    (∃ p : Passage, (". A1B1A1 ..\nC5." : Text) = p.text
      ∧ readKeys ". A1B1A1 ..\nC5." = .ok p.beats
      ∧ p.beats = [⟨.ofInt 1, []⟩, ⟨.ofInt 3, [0, 9]⟩, ⟨.ofInt 4, [24]⟩])
    ∧ (¬IsKeyLines "A1\n.1B2" ∧ ∃ e index line column, readKeys "A1\n.1B2" = .error e
      ∧ e.kind = .malformed ∧ e.place = ⟨some index, some line, some column⟩
      ∧ BreaksAt "A1\n.1B2" index ∧ StandsAt "A1\n.1B2" index line column)
    ∧ (¬IsKeyLines "A1 B" ∧ ∃ e index line column, readKeys "A1 B" = .error e
      ∧ e.kind = .malformed ∧ e.place = ⟨some index, some line, some column⟩
      ∧ BreaksAt "A1 B" index ∧ StandsAt "A1 B" index line column) := by
  let p : Passage := {
    lead := [.dot, .blank ' ' rfl]
    runs := [⟨[(0, 0), (1, 0), (0, 0)], [.blank ' ' rfl, .dot, .dot, .blank '\n' rfl], nofun⟩,
      ⟨[(2, 4)], [.dot], nofun⟩]
    apart := by simp }
  have hp : (". A1B1A1 ..\nC5." : Text) = p.text := by decide +kernel
  have hchar : ¬IsKeyLines "A1\n.1B2" :=
    not_isKeyLines (show marks "A1\n.1B2" = .error "1B2" by decide +kernel)
  have hrow : ¬IsKeyLines "A1 B" :=
    not_isKeyLines (show marks "A1 B" = .error "B" by decide +kernel)
  exact ⟨⟨p, hp, (readKeys_spec _).2.2.1 p hp, by decide +kernel⟩,
    ⟨hchar, (readKeys_spec _).2.2.2 hchar⟩, hrow, (readKeys_spec _).2.2.2 hrow⟩

end SongSheet.LetterSheet
