import Mathlib.Data.List.Infix
import SongSheet.Proofs.CipherSheet.Spelling

/-!
# Comments and the header

`/` and `*` open comments and scale rates, and the header prints whatever the metadata say. Three
things keep them apart:

* **a comment ends where its body does**, if the body does not hold the end itself
  (`dropBlockComments_comment`);
* **music opens no comment**: a slash of a rate has a digit behind it (`Quiet`);
* a header line gives its value back as it was written (`headerField?_line`), if the value is one
  line, does not end the comment, and has no blank at its ends that the reader would take off.

`FillsLine` is the last condition.
-/

set_option autoImplicit false

namespace SongSheet.CipherSheet

/-- A value that a header line holds as it is. -/
structure FillsLine (t : Text) : Prop where
  oneLine : ('\n' : CodePoint) ∉ t
  noEnd : ¬ ("*/" : Text) <:+: t
  start : ∀ c ∈ t.head?, isSpaceOrTab c = false
  finish : ∀ c ∈ t.getLast?, isSpaceOrTab c = false ∧ c ≠ '\r'

theorem fillsLine_nil : FillsLine [] := ⟨by decide, by decide, by simp, by simp⟩

/-! ## 1. Pairs of code points -/

/-- A pair that stands in neither of two texts stands in both together only across the seam. -/
theorem pair_not_infix_append {c d : CodePoint} {t u : Text} (ht : ¬ [c, d] <:+: t)
    (hu : ¬ [c, d] <:+: u) (hseam : t.getLast? ≠ some c ∨ u.head? ≠ some d) :
    ¬ [c, d] <:+: t ++ u := by
  induction t with
  | nil => exact hu
  | cons e t ih =>
    have htail : ¬ [c, d] <:+: t := fun h => ht (List.infix_cons h)
    rw [List.cons_append, List.infix_cons_iff, List.cons_prefix_cons]
    rintro (⟨rfl, hp⟩ | hi)
    · cases t with
      | nil =>
        cases u with
        | nil => simp at hp
        | cons f u =>
          rw [List.nil_append, List.cons_prefix_cons] at hp
          obtain ⟨rfl, -⟩ := hp
          simp at hseam
      | cons f t =>
        rw [List.cons_append, List.cons_prefix_cons] at hp
        obtain ⟨rfl, -⟩ := hp
        exact ht ⟨[], t, rfl⟩
    · refine ih htail ?_ hi
      cases t with
      | nil => exact Or.inl (by simp)
      | cons f t => simpa using hseam

/-- A text that opens no comment, whatever follows it. -/
structure Quiet (t : Text) : Prop where
  block : ¬ ("/*" : Text) <:+: t
  line : ¬ ("//" : Text) <:+: t
  finish : t.getLast? ≠ some ('/' : CodePoint)

theorem Quiet.of_not_mem {t : Text} (h : ('/' : CodePoint) ∉ t) : Quiet t where
  block := fun hi => h (hi.subset (by decide))
  line := fun hi => h (hi.subset (by decide))
  finish := fun hl => h (List.mem_of_getLast? hl)

theorem Quiet.append {t u : Text} (ht : Quiet t) (hu : Quiet u) : Quiet (t ++ u) where
  block := pair_not_infix_append ht.block hu.block (Or.inl ht.finish)
  line := pair_not_infix_append ht.line hu.line (Or.inl ht.finish)
  finish := by
    rw [List.getLast?_append]
    cases h : u.getLast? with
    | none => exact ht.finish
    | some c => exact fun heq => hu.finish (h.trans heq)

theorem Quiet.flatMap {α : Type} {f : α → Text} {xs : List α} (h : ∀ x ∈ xs, Quiet (f x)) :
    Quiet (xs.flatMap f) := by
  induction xs with
  | nil => exact Quiet.of_not_mem (by simp)
  | cons x xs ih =>
    rw [List.flatMap_cons]
    exact (h x (by simp)).append (ih fun y hy => h y (by simp [hy]))

/-- The slash of a step has a digit behind it. -/
theorem quiet_step {s : Counted} (h : isNumeral s.digits = true) : Quiet s.render := by
  have hdigits := areDigits_of_isNumeral h
  have hslash : ('/' : CodePoint) ∉ s.digits := fun hc =>
    CodePoint.ne_of_isDigit (mem_of_areDigits hdigits hc) (by decide) rfl
  obtain ⟨d, ds, hds⟩ : ∃ d ds, s.digits = d :: ds := by
    cases hs : s.digits with
    | nil => simp [isNumeral, hs] at h
    | cons d ds => exact ⟨d, ds, rfl⟩
  have hd : d.isDigit = true := mem_of_areDigits hdigits (by simp [hds])
  have hrest := Quiet.of_not_mem hslash
  have hseam : ∀ c : CodePoint, c.isDigit = false → ¬ [('/' : CodePoint), c] <+: s.render := by
    intro c hc hp
    rw [Counted.render, hds, List.cons_prefix_cons, List.cons_prefix_cons] at hp
    exact CodePoint.ne_of_isDigit hd hc hp.2.1.symm
  refine ⟨?_, ?_, ?_⟩
  · intro hi
    rcases List.infix_cons_iff.mp hi with hp | hi
    · exact hseam '*' (by decide) hp
    · exact hrest.block hi
  · intro hi
    rcases List.infix_cons_iff.mp hi with hp | hi
    · exact hseam '/' (by decide) hp
    · exact hrest.line hi
  · rw [Counted.render, hds, List.getLast?_cons_cons, ← hds]
    exact hrest.finish

theorem Chord.quiet_render {c : Chord} (h : c.WellFormed) : Quiet c.render := by
  refine Quiet.append (Quiet.of_not_mem ?_) (Quiet.flatMap fun s hs => quiet_step (h.steps s hs).2)
  intro hc
  rcases Text.mem_join hc with hc | ⟨piece, hpiece, hc⟩
  · revert hc
    decide
  · obtain ⟨n, hn, rfl⟩ := List.mem_map.mp hpiece
    exact Note.not_mem_render (h.notes n hn) (by decide) (by decide) hc

theorem Quiet.join {separator : Text} (hseparator : Quiet separator) : ∀ {pieces : List Text},
    (∀ piece ∈ pieces, Quiet piece) → Quiet (Text.join separator pieces)
  | [], _ => Quiet.of_not_mem (by simp [Text.join])
  | [piece], h => h piece (by simp)
  | piece :: next :: pieces, h => by
    rw [Text.join]
    exact ((h piece (by simp)).append hseparator).append
      (Quiet.join hseparator fun p hp => h p (List.mem_cons_of_mem _ hp))

theorem quiet_of_isNumeral {t : Text} (h : isNumeral t = true) : Quiet t := by
  refine Quiet.of_not_mem fun hc => ?_
  exact CodePoint.ne_of_isDigit (mem_of_areDigits (areDigits_of_isNumeral h) hc) (by decide) rfl

/-- The slash of a metre has a digit behind it, like the slash of a step. -/
theorem Music.quiet_front {m : Music} {count unit : Text} (h : m.WellFormed)
    (hcount : isNumeral count = true) (hunit : isNumeral unit = true) :
    Quiet (("[1=" : Text) ++ (m.letter :: m.accidental.toList) ++ ("," : Text) ++ count
      ++ ("/" : Text) ++ unit ++ ("," : Text) ++ m.bpm ++ ("]" : Text)) := by
  have hkey : Quiet (m.letter :: m.accidental.toList) := by
    refine Quiet.of_not_mem fun hc => ?_
    rcases Music.mem_key h hc with hc | hc | hc
    · revert hc
      decide
    · revert hc
      decide
    · revert hc
      decide
  have hopen : Quiet "[1=" := Quiet.of_not_mem (by decide)
  have hcomma : Quiet "," := Quiet.of_not_mem (by decide)
  have hclose : Quiet "]" := Quiet.of_not_mem (by decide)
  have hslash : Quiet (("/" : Text) ++ unit) := quiet_step (s := ⟨'/', unit⟩) hunit
  rw [List.append_assoc _ ("/" : Text) unit]
  exact ((((((hopen.append hkey).append hcomma).append (quiet_of_isNumeral hcount)).append
    hslash).append hcomma).append (quiet_of_isNumeral h.bpm)).append hclose

theorem Music.quiet_bracket {m : Music} (h : m.WellFormed) : Quiet m.bracket := by
  have hbracket : m.bracket = ("[1=" : Text) ++ (m.letter :: m.accidental.toList) ++ ("," : Text)
      ++ ("4" : Text) ++ ("/" : Text) ++ ("4" : Text) ++ ("," : Text) ++ m.bpm ++ ("]" : Text) := by
    simp [Music.bracket, Text.ofString]
  rw [hbracket]
  exact Music.quiet_front h (by decide) (by decide)

/-- **Music opens no comment**, whatever follows it. -/
theorem Music.quiet_of_spells {m : Music} {t : Text} (h : m.Spells t) : Quiet t := by
  obtain ⟨hwell, count, unit, finish, hcount, hunit, hfinish, rfl⟩ := h
  have hcomma : Quiet "," := Quiet.of_not_mem (by decide)
  have hchords : Quiet (Text.join "," (m.chords.map Chord.render)) := by
    refine hcomma.join fun piece hpiece => ?_
    obtain ⟨c, hc, rfl⟩ := List.mem_map.mp hpiece
    exact Chord.quiet_render (hwell.chords c hc)
  have hend : Quiet finish := by
    rcases hfinish with rfl | rfl
    · exact Quiet.of_not_mem List.not_mem_nil
    · exact hcomma
  exact ((Music.quiet_front hwell hcount hunit).append hchords).append hend

theorem Music.quiet_body {m : Music} (h : m.WellFormed) : Quiet m.body :=
  Quiet.flatMap fun c hc =>
    (Chord.quiet_render (h.chords c hc)).append (Quiet.of_not_mem (by decide))

/-! ## 2. Music survives the passes over comments and blanks -/

/-- A pass over comments that open with a slash and a second mark: whatever opens none stays. -/
structure IsPass (second : CodePoint) (drop : Text → Text) : Prop where
  nil : drop [] = []
  cons : ∀ {c : CodePoint} {t : Text}, c ≠ '/' ∨ t.head? ≠ some second →
    drop (c :: t) = c :: drop t

theorem isPass_dropBlockComments : IsPass '*' (dropBlockComments false) where
  nil := rfl
  cons := by
    intro c t h
    cases t with
    | nil => rfl
    | cons d t =>
      have hopen : ¬ (c = '/' ∧ d = '*' ∧ Text.contains "*/" t = true) := by
        rintro ⟨rfl, rfl, -⟩
        rcases h with h | h
        · exact h rfl
        · exact h rfl
      rw [dropBlockComments, if_neg Bool.false_ne_true, if_neg hopen]

theorem isPass_dropLineComments : IsPass '/' (dropLineComments false) where
  nil := rfl
  cons := by
    intro c t h
    have hopen : ¬ (c = '/' ∧ t.head? = some '/') := by
      rintro ⟨rfl, hhead⟩
      rcases h with h | h
      · exact h rfl
      · exact h hhead
    rw [dropLineComments]
    split
    · rfl
    · rw [if_neg]
      simpa using hopen

/-- What opens no comment stays, and the pass goes on behind it. -/
theorem IsPass.append {second : CodePoint} {drop : Text → Text} (hdrop : IsPass second drop)
    {t u : Text} (ht : ¬ [.ofChar '/', second] <:+: t)
    (hseam : t.getLast? ≠ some (.ofChar '/') ∨ u.head? ≠ some second) :
    drop (t ++ u) = t ++ drop u := by
  induction t with
  | nil => rfl
  | cons c t ih =>
    have htail : ¬ [.ofChar '/', second] <:+: t := fun h => ht (List.infix_cons h)
    have hopen : c ≠ '/' ∨ (t ++ u).head? ≠ some second := by
      rw [← not_and_or]
      rintro ⟨rfl, hhead⟩
      cases t with
      | nil =>
        rcases hseam with hlast | hnot
        · exact hlast rfl
        · exact hnot hhead
      | cons d t =>
        cases hhead
        exact ht ⟨[], t, rfl⟩
    have hrest : t.getLast? ≠ some (.ofChar '/') ∨ u.head? ≠ some second :=
      hseam.imp_left fun h hlast => h (List.mem_getLast?_cons hlast)
    rw [List.cons_append, hdrop.cons hopen, ih htail hrest, List.cons_append]

theorem IsPass.eq_self {second : CodePoint} {drop : Text → Text} (hdrop : IsPass second drop)
    {t : Text} (h : ¬ [.ofChar '/', second] <:+: t) : drop t = t := by
  have hseam : ([] : Text).head? ≠ some second := nofun
  simpa [hdrop.nil] using hdrop.append h (.inr hseam)

/-- Inside a comment everything is dropped up to its end. -/
theorem dropBlockComments_inside {body : Text} (h : ¬ ("*/" : Text) <:+: body) (rest : Text) :
    dropBlockComments true (body ++ ("*/" : Text) ++ rest) = dropBlockComments false rest := by
  induction body with
  | nil => rfl
  | cons c body ih =>
    have htail : ¬ ("*/" : Text) <:+: body := fun hi => h (List.infix_cons hi)
    cases body with
    | nil =>
      have hslash : ¬ (c = '*' ∧ ('*' : CodePoint) = '/') := by
        rintro ⟨-, h⟩
        revert h
        decide
      have hcons : [c] ++ ("*/" : Text) ++ rest = c :: ('*' : CodePoint) :: '/' :: rest := rfl
      rw [hcons, dropBlockComments, if_pos rfl, if_neg hslash]
      exact ih htail
    | cons d body =>
      have hend : ¬ (c = '*' ∧ d = '/') := by
        rintro ⟨rfl, rfl⟩
        exact h ⟨[], body, rfl⟩
      rw [List.cons_append, List.cons_append, List.cons_append, List.cons_append,
        dropBlockComments, if_pos rfl, if_neg hend]
      exact ih htail

/-- **A comment goes, and with it nothing that follows.** -/
theorem dropBlockComments_comment {body : Text} (h : ¬ ("*/" : Text) <:+: body) (rest : Text) :
    dropBlockComments false (("/*" : Text) ++ body ++ ("*/" : Text) ++ rest)
      = dropBlockComments false rest := by
  have hopen : ('/' : CodePoint) = '/' ∧ ('*' : CodePoint) = '*'
      ∧ Text.contains "*/" (body ++ ("*/" : Text) ++ rest) = true :=
    ⟨rfl, rfl, Text.contains_eq_true⟩
  have hcons : ("/*" : Text) ++ body ++ ("*/" : Text) ++ rest
      = ('/' : CodePoint) :: '*' :: (body ++ ("*/" : Text) ++ rest) := rfl
  rw [hcons, dropBlockComments, if_neg Bool.false_ne_true, if_pos hopen]
  exact dropBlockComments_inside h rest

/-- A quiet text keeps all but its blanks. -/
theorem music_of_quiet {t : Text} (h : Quiet t) : music t = Text.squeeze t := by
  rw [music, isPass_dropBlockComments.eq_self h.block, isPass_dropLineComments.eq_self h.line]

/-! ## 3. Header lines -/

/-- A line of the header. -/
def line (field : Field) (value : Text) : Text :=
  (" * " : Text) ++ field.word ++ (": " : Text) ++ value ++ ("\n" : Text)

/-- The body of the header: what is between the marks of the comment. -/
def headerBody (name author transcriber : Text) : Text :=
  ("*\n" : Text) ++ (line .name name ++ (line .author author ++ (line .arrangedBy []
    ++ (line .transcribedBy transcriber ++ (" " : Text)))))

theorem headerText_eq_display (score : Score) :
    headerText score = ("/*" : Text) ++ headerBody score.name.display score.author.display
      score.transcriber.display ++ ("*/" : Text) ++ ("\n" : Text) := by
  simp [headerText, headerBody, line, Field.word, Text.ofString]

theorem headerText_eq {score : Score} {name author transcriber : Text}
    (hname : score.name = .string name) (hauthor : score.author = .string author)
    (htranscriber : score.transcriber = .string transcriber) :
    headerText score = ("/*" : Text) ++ headerBody name author transcriber ++ ("*/" : Text)
      ++ ("\n" : Text) := by
  rw [headerText_eq_display, hname, hauthor, htranscriber]
  rfl

theorem fieldValue_line {value : Text} (h : FillsLine value) (rest : Text) :
    fieldValue ((" " : Text) ++ value ++ ("\n" : Text) ++ rest) = value := by
  have hstart : ((" " : Text) ++ value ++ ("\n" : Text) ++ rest).dropWhile isSpaceOrTab
      = value ++ ('\n' : CodePoint) :: rest := by
    have hdrop : ((" " : Text) ++ value ++ ("\n" : Text) ++ rest).dropWhile isSpaceOrTab
        = (value ++ ('\n' : CodePoint) :: rest).dropWhile isSpaceOrTab := by
      rw [List.append_assoc, List.append_assoc]
      rfl
    rw [hdrop, Text.dropWhile_eq_self]
    intro c hc
    cases hv : value with
    | nil =>
      rw [hv] at hc
      cases hc
      decide
    | cons d value' =>
      rw [hv] at hc
      exact h.start c (by rw [hv]; exact hc)
  have hline : (value ++ ('\n' : CodePoint) :: rest).takeWhile (· ≠ ('\n' : CodePoint))
      = value := by
    rw [List.takeWhile_append_of_pos fun c hc => by
      have hne : c ≠ '\n' := fun heq => h.oneLine (heq ▸ hc)
      simpa using hne]
    simp
  rw [fieldValue, hstart, hline]
  refine Text.dropEnd_eq_self fun c hc => ?_
  obtain ⟨hblank, hreturn⟩ := h.finish c hc
  simp [hblank, hreturn]

/-- **A line of the header is read as the field and the value it was written from.** -/
theorem headerField?_line {value : Text} (h : FillsLine value) (field : Field) (rest : Text) :
    headerField? (line field value ++ rest) = some (field, value) := by
  have hread : headerField? (line field value ++ rest)
      = some (field, fieldValue ((" " : Text) ++ value ++ ("\n" : Text) ++ rest)) := by
    have hassoc : line field value ++ rest
        = (" * " : Text) ++ field.word ++ (":" : Text)
          ++ ((" " : Text) ++ value ++ ("\n" : Text) ++ rest) := by
      simp [line, Text.ofString]
    rw [hassoc]
    generalize (" " : Text) ++ value ++ ("\n" : Text) ++ rest = u
    cases field <;> rfl
  rw [hread, fieldValue_line h]

theorem laterLines_append_cons {t : Text} (h : ('\n' : CodePoint) ∉ t) (rest : Text) :
    laterLines (t ++ ('\n' : CodePoint) :: rest) = rest :: laterLines rest := by
  induction t with
  | nil => rw [List.nil_append, laterLines, if_pos rfl]
  | cons c t ih =>
    rw [List.mem_cons, not_or] at h
    rw [List.cons_append, laterLines, if_neg (Ne.symm h.1), ih h.2]

theorem laterLines_line {value : Text} (h : FillsLine value) (field : Field) (rest : Text) :
    laterLines (line field value ++ rest) = rest :: laterLines rest := by
  have hassoc : line field value ++ rest
      = ((" * " : Text) ++ field.word ++ (": " : Text) ++ value) ++ ('\n' : CodePoint) :: rest := by
    simp [line, Text.ofString]
  rw [hassoc]
  refine laterLines_append_cons ?_ rest
  simp only [List.mem_append, not_or]
  exact ⟨⟨⟨by decide, by cases field <;> decide⟩, by decide⟩, h.oneLine⟩

/-! ## 4. The header as a whole -/

/-- What stands in front of a value does not end the comment, nor does it help the value to. -/
theorem lineStart_open {value : Text} (h : ¬ ("*/" : Text) <:+: value) (field : Field) :
    ¬ ("*/" : Text) <:+: (" * " : Text) ++ field.word ++ (": " : Text) ++ value := by
  have hword : ¬ ("*/" : Text) <:+: (" * " : Text) ++ field.word ++ (": " : Text) := by
    cases field <;> decide
  have hlast : ((" * " : Text) ++ field.word ++ (": " : Text)).getLast? ≠ some '*' := by
    cases field <;> decide
  exact pair_not_infix_append hword h (Or.inl hlast)

/-- A line of the header does not end the comment, nor does it help the next one to. -/
theorem line_open {value : Text} (h : ¬ ("*/" : Text) <:+: value) (field : Field) {rest : Text}
    (hrest : ¬ ("*/" : Text) <:+: rest) : ¬ ("*/" : Text) <:+: line field value ++ rest := by
  have hend : ¬ ("*/" : Text) <:+: ("\n" : Text) ++ rest :=
    pair_not_infix_append (by decide) hrest (Or.inl (by decide))
  have hvalue : ¬ ("*/" : Text) <:+: value ++ (("\n" : Text) ++ rest) := by
    refine pair_not_infix_append h hend (Or.inr ?_)
    intro hhead
    cases hhead
  rw [line, List.append_assoc, List.append_assoc]
  exact lineStart_open hvalue field

theorem headerBody_open {name author transcriber : Text} (hname : ¬ ("*/" : Text) <:+: name)
    (hauthor : ¬ ("*/" : Text) <:+: author) (htranscriber : ¬ ("*/" : Text) <:+: transcriber) :
    ¬ ("*/" : Text) <:+: headerBody name author transcriber := by
  have hblank : ¬ ("*/" : Text) <:+: " " := by decide
  have hlast := line_open htranscriber .transcribedBy hblank
  have hnone : ¬ ("*/" : Text) <:+: [] := by decide
  have hthird := line_open hnone .arrangedBy hlast
  have hsecond := line_open hauthor .author hthird
  have hfirst := line_open hname .name hsecond
  exact pair_not_infix_append (by decide) hfirst (Or.inl (by decide))

/-- The fields of a header that was written, those without a value left out. -/
theorem headerFields_of_header {name author transcriber : Text} (hname : FillsLine name)
    (hauthor : FillsLine author) (htranscriber : FillsLine transcriber) (rest : Text) :
    headerFields (("/*" : Text) ++ headerBody name author transcriber ++ ("*/" : Text) ++ rest)
      = [(Field.name, name), (.author, author), (.transcribedBy, transcriber)].filter
          fun (_, value) => !value.isEmpty := by
  have hcomment : firstComment?
      (("/*" : Text) ++ headerBody name author transcriber ++ ("*/" : Text) ++ rest)
      = some (("/**" : Text) ++ ('\n' : CodePoint) :: (line .name name ++ (line .author author
        ++ (line .arrangedBy [] ++ (line .transcribedBy transcriber ++ (" */" : Text)))))) := by
    have hopen : Text.cut? "/*"
        (("/*" : Text) ++ headerBody name author transcriber ++ ("*/" : Text) ++ rest)
        = some ([], headerBody name author transcriber ++ ("*/" : Text) ++ rest) := by
      rw [List.append_assoc, List.append_assoc, Text.cut?_append_self, ← List.append_assoc]
    have hclose : Text.cut? "*/" (headerBody name author transcriber ++ ("*/" : Text) ++ rest)
        = some (headerBody name author transcriber, rest) := by
      rw [List.append_assoc]
      exact Text.cut?_pair (by decide)
        (headerBody_open hname.noEnd hauthor.noEnd htranscriber.noEnd)
        rest
    rw [firstComment?, hopen]
    simp only [Option.bind_eq_bind, Option.bind_some, hclose]
    simp [headerBody, Text.ofString]
  have hlines : laterLines (("/**" : Text) ++ ('\n' : CodePoint) :: (line .name name
      ++ (line .author author ++ (line .arrangedBy [] ++ (line .transcribedBy transcriber
        ++ (" */" : Text))))))
      = [line .name name ++ (line .author author ++ (line .arrangedBy []
          ++ (line .transcribedBy transcriber ++ (" */" : Text)))),
        line .author author ++ (line .arrangedBy []
          ++ (line .transcribedBy transcriber ++ (" */" : Text))),
        line .arrangedBy [] ++ (line .transcribedBy transcriber ++ (" */" : Text)),
        line .transcribedBy transcriber ++ (" */" : Text), " */"] := by
    rw [laterLines_append_cons (by decide), laterLines_line hname, laterLines_line hauthor,
      laterLines_line fillsLine_nil, laterLines_line htranscriber]
    rfl
  have hfirst : ∀ t : Text, headerField? (("/**" : Text) ++ t) = none := fun _ => rfl
  have hlast : headerField? " */" = none := rfl
  rw [headerFields, hcomment]
  dsimp only
  rw [hlines]
  simp only [List.filterMap_cons, List.filterMap_nil, hfirst, hlast, headerField?_line hname,
    headerField?_line hauthor, headerField?_line fillsLine_nil, headerField?_line htranscriber]
  simp [List.filter_cons]

/-- **Every field of a header has the value it was written with**, an empty one included. -/
theorem headerValue_of_header {name author transcriber : Text} (hname : FillsLine name)
    (hauthor : FillsLine author) (htranscriber : FillsLine transcriber) (rest : Text) :
    let t := ("/*" : Text) ++ headerBody name author transcriber ++ ("*/" : Text) ++ rest
    headerValue t .name = name ∧ headerValue t .author = author
      ∧ headerValue t .transcribedBy = transcriber := by
  intro t
  have hfields : headerFields t = _ := headerFields_of_header hname hauthor htranscriber rest
  simp only [headerValue, hfields]
  cases name <;> cases author <;> cases transcriber <;> simp

end SongSheet.CipherSheet
