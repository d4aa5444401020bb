import SongSheet.CipherSheet.Music
import SongSheet.Proofs.Text.Cut
import SongSheet.Proofs.Text.Numeral
import SongSheet.Proofs.Traversal

/-!
# The music of cipher sheets, as trees and as text

`Music.ofText?` takes a text apart in four passes over separators: the bracket, the commas, the rate
marks, the ampersands, the modifiers. Here are the printers the other way, one for each level of the
tree, and the four facts that the reader undoes them (`ofText?_render`).

What a printer needs of its tree is named `WellFormed` at each level. It says of every part that it
is made of the code points the grammar allows there, and **that is all that keeps the passes
apart**: a separator of an outer pass is none of the code points that the inner passes leave behind.
-/

set_option autoImplicit false

namespace SongSheet.CipherSheet

/-! ## 1. Printers -/

/-- A mark and its digits. -/
def Counted.render (m : Counted) : Text := m.mark :: m.digits

/-- A digit and its modifiers. -/
def Note.render (n : Note) : Text := n.digit :: n.modifiers.flatMap Counted.render

/-- Notes with ampersands between them, and the steps of the rate. -/
def Chord.render (c : Chord) : Text :=
  Text.join "&" (c.notes.map Note.render) ++ c.steps.flatMap Counted.render

/-- The bracket with the key and the tempo. -/
def Music.bracket (m : Music) : Text :=
  ("[1=" : Text) ++ (m.letter :: m.accidental.toList) ++ (",4/4," : Text) ++ m.bpm ++ ("]" : Text)

/-- The chords with a comma after each. -/
def Music.body (m : Music) : Text := m.chords.flatMap fun c => c.render ++ (",": Text)

/-- The bracket, and the chords after it. -/
def Music.render (m : Music) : Text := m.bracket ++ m.body

/-- A digit of some script, and modifiers that count with digits. -/
structure Note.WellFormed (n : Note) : Prop where
  digit : n.digit.isDigit = true
  modifiers : ∀ m ∈ n.modifiers, isModifier m.mark = true ∧ areDigits m.digits = true

/-- At least one note, and steps that count with numerals. -/
structure Chord.WellFormed (c : Chord) : Prop where
  notes_ne_nil : c.notes ≠ []
  notes : ∀ n ∈ c.notes, n.WellFormed
  steps : ∀ s ∈ c.steps, isStep s.mark = true ∧ isNumeral s.digits = true

/-- A key, a numeral for the tempo, and at least one chord. -/
structure Music.WellFormed (m : Music) : Prop where
  letter : m.letter.between 'A' 'G' = true
  accidental : ∀ c ∈ m.accidental, c = '#' ∨ c = 'b'
  bpm : isNumeral m.bpm = true
  chords_ne_nil : m.chords ≠ []
  chords : ∀ c ∈ m.chords, c.WellFormed

/-- A sheet's music spelled with some metre, and with something behind the last chord. -/
def Music.spelling (m : Music) (count unit finish : Text) : Text :=
  ("[1=" : Text) ++ (m.letter :: m.accidental.toList) ++ ("," : Text) ++ count ++ ("/" : Text)
    ++ unit ++ ("," : Text) ++ m.bpm ++ ("]" : Text)
    ++ Text.join "," (m.chords.map Chord.render) ++ finish

/-- **The grammar**: a text spells music with any metre, and perhaps with a comma at the end. -/
def Music.Spells (m : Music) (t : Text) : Prop :=
  m.WellFormed ∧ ∃ count unit finish : Text, isNumeral count = true ∧ isNumeral unit = true
    ∧ (finish = [] ∨ finish = ",") ∧ t = m.spelling count unit finish

/-! ## 2. What the parts are made of -/

theorem mem_of_areDigits {t : Text} (h : areDigits t = true) {c : CodePoint} (hc : c ∈ t) :
    c.isDigit = true := List.all_eq_true.mp h c hc

theorem areDigits_of_isNumeral {t : Text} (h : isNumeral t = true) : areDigits t = true :=
  (Bool.and_eq_true_iff.mp h).2

/-- The marks of an outer pass, none of which a digit or a modifier is. -/
theorem not_isStep_of_isDigit {c : CodePoint} (h : c.isDigit = true) : isStep c = false := by
  have hstar : c ≠ '*' := CodePoint.ne_of_isDigit h (by decide)
  have hslash : c ≠ '/' := CodePoint.ne_of_isDigit h (by decide)
  simp [isStep, hstar, hslash]

theorem not_isModifier_of_isDigit {c : CodePoint} (h : c.isDigit = true) :
    isModifier c = false := by
  have hplus : c ≠ '+' := CodePoint.ne_of_isDigit h (by decide)
  have hminus : c ≠ '-' := CodePoint.ne_of_isDigit h (by decide)
  have hsharp : c ≠ '#' := CodePoint.ne_of_isDigit h (by decide)
  have hflat : c ≠ 'b' := CodePoint.ne_of_isDigit h (by decide)
  simp [isModifier, hplus, hminus, hsharp, hflat]

theorem isModifier_cases {c : CodePoint} (h : isModifier c = true) :
    c = '+' ∨ c = '-' ∨ c = '#' ∨ c = 'b' := by
  simpa [isModifier, or_assoc] using h

theorem isStep_cases {c : CodePoint} (h : isStep c = true) : c = '*' ∨ c = '/' := by
  simpa [isStep] using h

/-- A code point of a note is a digit or a modifier. -/
theorem Note.mem_render {n : Note} (h : n.WellFormed) {c : CodePoint} (hc : c ∈ n.render) :
    c.isDigit = true ∨ isModifier c = true := by
  rcases List.mem_cons.mp hc with rfl | hc
  · exact Or.inl h.digit
  · obtain ⟨m, hm, hc⟩ := List.mem_flatMap.mp hc
    obtain ⟨hmark, hdigits⟩ := h.modifiers m hm
    rcases List.mem_cons.mp hc with rfl | hc
    · exact Or.inr hmark
    · exact Or.inl (mem_of_areDigits hdigits hc)

/-- A text of notes holds nothing that is neither a digit nor a modifier. -/
theorem Note.not_mem_render {n : Note} (h : n.WellFormed) {c : CodePoint}
    (hdigit : c.isDigit = false) (hmodifier : isModifier c = false) : c ∉ n.render := by
  intro hc
  rcases Note.mem_render h hc with h' | h'
  · rw [hdigit] at h'
    cases h'
  · rw [hmodifier] at h'
    cases h'

/-- The code points of a chord, by what they are for. -/
theorem Chord.mem_render {c : Chord} (h : c.WellFormed) {d : CodePoint} (hd : d ∈ c.render) :
    d.isDigit = true ∨ isModifier d = true ∨ d = '&' ∨ isStep d = true := by
  rcases List.mem_append.mp hd with hd | hd
  · rcases Text.mem_join hd with hd | ⟨piece, hpiece, hd⟩
    · exact Or.inr (Or.inr (Or.inl (List.mem_singleton.mp hd)))
    · obtain ⟨n, hn, rfl⟩ := List.mem_map.mp hpiece
      rcases Note.mem_render (h.notes n hn) hd with hd | hd
      · exact Or.inl hd
      · exact Or.inr (Or.inl hd)
  · obtain ⟨s, hs, hd⟩ := List.mem_flatMap.mp hd
    obtain ⟨hmark, hdigits⟩ := h.steps s hs
    rcases List.mem_cons.mp hd with rfl | hd
    · exact Or.inr (Or.inr (Or.inr hmark))
    · exact Or.inl (mem_of_areDigits (areDigits_of_isNumeral hdigits) hd)

/-- A chord holds nothing but its own code points. -/
theorem Chord.not_mem_render {c : Chord} (h : c.WellFormed) {d : CodePoint}
    (hdigit : d.isDigit = false) (hmodifier : isModifier d = false) (hand : d ≠ '&')
    (hstep : isStep d = false) : d ∉ c.render := by
  intro hd
  rcases Chord.mem_render h hd with h' | h' | h' | h'
  · rw [hdigit] at h'
    cases h'
  · rw [hmodifier] at h'
    cases h'
  · exact hand h'
  · rw [hstep] at h'
    cases h'

/-- A key is a letter and perhaps an accidental. -/
theorem Music.mem_key {m : Music} (h : m.WellFormed) {c : CodePoint}
    (hc : c ∈ m.letter :: m.accidental.toList) : c.between 'A' 'G' = true ∨ c = '#' ∨ c = 'b' := by
  rcases List.mem_cons.mp hc with rfl | hc
  · exact Or.inl h.letter
  · exact Or.inr (h.accidental c (by simpa using hc))

/-! ## 3. The passes undo the printers -/

/-- A text without marks joins what stands before the first mark. -/
theorem cutAtMarks_append {isMark : CodePoint → Bool} {before : Text}
    (h : ∀ c ∈ before, isMark c = false) (t : Text) :
    cutAtMarks isMark (before ++ t)
      = (before ++ (cutAtMarks isMark t).1, (cutAtMarks isMark t).2) := by
  induction before with
  | nil => rfl
  | cons c before ih =>
    rw [List.cons_append, cutAtMarks, ih fun d hd => h d (by simp [hd])]
    simp [h c (by simp)]

/-- **Marks and what follows them come apart**, as long as nothing between them is a mark. -/
theorem cutAtMarks_render {isMark : CodePoint → Bool} {before : Text} {counted : List Counted}
    (hbefore : ∀ c ∈ before, isMark c = false)
    (hcounted : ∀ m ∈ counted, isMark m.mark = true ∧ ∀ c ∈ m.digits, isMark c = false) :
    cutAtMarks isMark (before ++ counted.flatMap Counted.render) = (before, counted) := by
  rw [cutAtMarks_append hbefore]
  induction counted with
  | nil => simp [cutAtMarks]
  | cons m counted ih =>
    obtain ⟨hmark, hdigits⟩ := hcounted m (by simp)
    have ih := ih fun m' hm' => hcounted m' (by simp [hm'])
    simp only [Prod.mk.injEq, List.append_right_eq_self] at ih
    rw [List.flatMap_cons, Counted.render, List.cons_append, cutAtMarks, cutAtMarks_append hdigits]
    simp [hmark, ih.1, ih.2]

theorem Note.ofText?_render {n : Note} (h : n.WellFormed) : Note.ofText? n.render = some n := by
  have hcut : cutAtMarks isModifier (n.modifiers.flatMap Counted.render) = ([], n.modifiers) := by
    have hnone : ∀ c ∈ ([] : Text), isModifier c = false := by simp
    refine cutAtMarks_render hnone fun m hm => ?_
    obtain ⟨hmark, hdigits⟩ := h.modifiers m hm
    exact ⟨hmark, fun c hc => not_isModifier_of_isDigit (mem_of_areDigits hdigits hc)⟩
  have hall : n.modifiers.all (areDigits ·.digits) = true :=
    List.all_eq_true.mpr fun m hm => (h.modifiers m hm).2
  simp [Note.render, Note.ofText?, hcut, hall, h.digit]

/-- No rate mark among the notes of a chord: an ampersand, a digit and a modifier are none. -/
theorem Chord.not_isStep_of_mem_notes {c : Chord} (h : c.WellFormed) {d : CodePoint}
    (hd : d ∈ Text.join "&" (c.notes.map Note.render)) : isStep d = false := by
  rcases Text.mem_join hd with hd | ⟨piece, hpiece, hd⟩
  · rw [List.mem_singleton.mp hd]
    decide
  · obtain ⟨n, hn, rfl⟩ := List.mem_map.mp hpiece
    rcases Note.mem_render (h.notes n hn) hd with hd | hd
    · exact not_isStep_of_isDigit hd
    · rcases isModifier_cases hd with rfl | rfl | rfl | rfl <;> decide

/-- The notes of a chord come apart at the ampersands. -/
theorem Chord.splitOn_notes {c : Chord} (h : c.WellFormed) :
    Text.splitOn '&' (Text.join "&" (c.notes.map Note.render)) = c.notes.map Note.render := by
  refine Text.splitOn_join (by simpa using h.notes_ne_nil) fun piece hpiece => ?_
  obtain ⟨n, hn, rfl⟩ := List.mem_map.mp hpiece
  exact Note.not_mem_render (h.notes n hn) (by decide) (by decide)

theorem Chord.ofText?_render {c : Chord} (h : c.WellFormed) : Chord.ofText? c.render = some c := by
  have hcut : cutAtMarks isStep c.render
      = (Text.join "&" (c.notes.map Note.render), c.steps) := by
    refine cutAtMarks_render (fun d hd => Chord.not_isStep_of_mem_notes h hd) fun s hs => ?_
    obtain ⟨hmark, hdigits⟩ := h.steps s hs
    exact ⟨hmark, fun d hd =>
      not_isStep_of_isDigit (mem_of_areDigits (areDigits_of_isNumeral hdigits) hd)⟩
  have hread : (c.notes.map Note.render).mapM Note.ofText? = some c.notes := by
    have := mapM_map_eq_pure (m := Option) (k := id) fun n hn => Note.ofText?_render (h.notes n hn)
    simpa using this
  have hall : c.steps.all (isNumeral ·.digits) = true :=
    List.all_eq_true.mpr fun s hs => (h.steps s hs).2
  rw [Chord.ofText?, hcut]
  simp [Chord.splitOn_notes h, hread, hall]

theorem Note.render_ne_nil (n : Note) : n.render ≠ [] := List.cons_ne_nil _ _

theorem Chord.join_notes_ne_nil {c : Chord} (h : c.WellFormed) :
    Text.join "&" (c.notes.map Note.render) ≠ [] := by
  obtain ⟨n, notes, hnotes⟩ := List.exists_cons_of_ne_nil h.notes_ne_nil
  rw [hnotes, List.map_cons]
  cases notes with
  | nil => exact n.render_ne_nil
  | cons next notes =>
    rw [List.map_cons, Text.join]
    simp [Note.render_ne_nil]

theorem Chord.render_ne_nil {c : Chord} (h : c.WellFormed) : c.render ≠ [] := fun hnil =>
  Chord.join_notes_ne_nil h (List.append_eq_nil_iff.mp hnil).1

/-- Chords come apart at the commas between them; a comma at the end leaves an empty piece. -/
theorem splitOn_chords {cs : List Chord} {finish : Text} (hne : cs ≠ [])
    (h : ∀ c ∈ cs, c.WellFormed) (hfinish : finish = [] ∨ finish = ",") :
    Text.splitOn ',' (Text.join "," (cs.map Chord.render) ++ finish)
      = cs.map Chord.render ++ if finish = [] then [] else [[]] := by
  have hmap : cs.map Chord.render ≠ [] := by simpa using hne
  have hcomma : ∀ piece ∈ cs.map Chord.render, (',' : CodePoint) ∉ piece := by
    intro piece hpiece
    obtain ⟨c, hc, rfl⟩ := List.mem_map.mp hpiece
    exact Chord.not_mem_render (h c hc) (by decide) (by decide) (by decide) (by decide)
  rcases hfinish with rfl | rfl
  · rw [List.append_nil, if_pos rfl, List.append_nil]
    exact Text.splitOn_join hmap hcomma
  · rw [← Text.flatMap_end hmap, if_neg (by decide)]
    exact Text.splitOn_flatMap_end hcomma

/-- Chords with commas between them are read with a comma at the end and without one. -/
theorem chords?_join {cs : List Chord} {finish : Text} (hne : cs ≠ [])
    (h : ∀ c ∈ cs, c.WellFormed) (hfinish : finish = [] ∨ finish = ",") :
    chords? (Text.join "," (cs.map Chord.render) ++ finish) = some cs := by
  have hread : (cs.map Chord.render).mapM Chord.ofText? = some cs := by
    have := mapM_map_eq_pure (m := Option) (k := id) fun c hc => Chord.ofText?_render (h c hc)
    simpa using this
  -- The reader leaves out the empty piece that a comma at the end makes, and no other.
  have hpieces : (if (Text.splitOn ',' (Text.join "," (cs.map Chord.render) ++ finish)).getLast?
        = some []
      then (Text.splitOn ',' (Text.join "," (cs.map Chord.render) ++ finish)).dropLast
      else Text.splitOn ',' (Text.join "," (cs.map Chord.render) ++ finish))
      = cs.map Chord.render := by
    rw [splitOn_chords hne h hfinish]
    rcases hfinish with rfl | rfl
    · have hlast : (cs.map Chord.render).getLast? ≠ some [] := by
        intro hlast
        obtain ⟨c, hc, hnil⟩ := List.mem_map.mp (List.mem_of_getLast? hlast)
        exact Chord.render_ne_nil (h c hc) hnil
      rw [if_pos (rfl : ([] : Text) = []), List.append_nil, if_neg hlast]
    · have hcomma : Text.ofString "," ≠ [] := by decide
      rw [if_neg hcomma, if_pos List.getLast?_concat, List.dropLast_concat]
  unfold chords?
  simp [hpieces, hread, hne]

theorem key?_render {letter : CodePoint} {accidental : Option CodePoint}
    (hletter : letter.between 'A' 'G' = true) (h : ∀ c ∈ accidental, c = '#' ∨ c = 'b') :
    key? (letter :: accidental.toList) = some (letter, accidental) := by
  cases accidental with
  | none => simp [key?, hletter]
  | some c =>
    rcases h c rfl with rfl | rfl <;> simp [key?, hletter]

theorem isMetre_of_numerals {count unit : Text} (hcount : isNumeral count = true)
    (hunit : isNumeral unit = true) : isMetre (count ++ (("/" : Text) ++ unit)) = true := by
  have hslash : ∀ {t : Text}, isNumeral t = true → ('/' : CodePoint) ∉ t := by
    intro t ht hc
    exact CodePoint.ne_of_isDigit (mem_of_areDigits (areDigits_of_isNumeral ht) hc) (by decide) rfl
  have hpieces : Text.splitOn '/' (count ++ (("/" : Text) ++ unit)) = [count, unit] := by
    refine (Text.splitOn_append_cons (hslash hcount) unit).trans ?_
    rw [Text.splitOn_of_not_mem (hslash hunit)]
  rw [isMetre, hpieces]
  exact Bool.and_eq_true_iff.mpr ⟨hcount, hunit⟩

/-- A key, a metre and a tempo hold neither a comma nor the bracket's end. -/
theorem Music.ne_of_mem_fields {m : Music} {count unit : Text} (h : m.WellFormed)
    (hcount : isNumeral count = true) (hunit : isNumeral unit = true) :
    (∀ c ∈ m.letter :: m.accidental.toList, c ≠ ',' ∧ c ≠ ']')
      ∧ (∀ c ∈ count ++ (("/" : Text) ++ unit), c ≠ ',' ∧ c ≠ ']')
      ∧ ∀ c ∈ m.bpm, c ≠ ',' ∧ c ≠ ']' := by
  have hnumeral : ∀ {t : Text}, isNumeral t = true → ∀ c ∈ t, c ≠ ',' ∧ c ≠ ']' := by
    intro t ht c hc
    have hdigit := mem_of_areDigits (areDigits_of_isNumeral ht) hc
    exact ⟨CodePoint.ne_of_isDigit hdigit (by decide), CodePoint.ne_of_isDigit hdigit (by decide)⟩
  refine ⟨?_, ?_, hnumeral h.bpm⟩
  · intro c hc
    rcases Music.mem_key h hc with hc | rfl | rfl
    · constructor
      · rintro rfl
        revert hc
        decide
      · rintro rfl
        revert hc
        decide
    · decide
    · decide
  · intro c hc
    simp only [List.mem_append] at hc
    rcases hc with hc | hc | hc
    · exact hnumeral hcount c hc
    · rw [List.mem_singleton.mp hc]
      decide
    · exact hnumeral hunit c hc

/-- What stands between the brackets, and comes apart into three fields. -/
theorem Music.exists_bracket {m : Music} {count unit : Text} (finish : Text) (h : m.WellFormed)
    (hcount : isNumeral count = true) (hunit : isNumeral unit = true) :
    ∃ bracket : Text, (']' : CodePoint) ∉ bracket
      ∧ Text.splitOn ',' bracket
        = [m.letter :: m.accidental.toList, count ++ (("/" : Text) ++ unit), m.bpm]
      ∧ m.spelling count unit finish = ("[1=" : Text) ++ (bracket ++ (']' : CodePoint)
        :: (Text.join "," (m.chords.map Chord.render) ++ finish)) := by
  obtain ⟨hkey, hmetre, hbpm⟩ := Music.ne_of_mem_fields h hcount hunit
  refine ⟨(m.letter :: m.accidental.toList) ++ ((',' : CodePoint)
    :: (count ++ (("/" : Text) ++ unit) ++ (',' : CodePoint) :: m.bpm)), ?_, ?_, ?_⟩
  · intro hc
    rcases List.mem_append.mp hc with hc | hc
    · exact (hkey _ hc).2 rfl
    rcases List.mem_cons.mp hc with hc | hc
    · exact absurd hc (by decide)
    rcases List.mem_append.mp hc with hc | hc
    · exact (hmetre _ hc).2 rfl
    rcases List.mem_cons.mp hc with hc | hc
    · exact absurd hc (by decide)
    · exact (hbpm _ hc).2 rfl
  · rw [Text.splitOn_append_cons fun hc => (hkey _ hc).1 rfl,
      Text.splitOn_append_cons fun hc => (hmetre _ hc).1 rfl,
      Text.splitOn_of_not_mem fun hc => (hbpm _ hc).1 rfl]
  · simp [Music.spelling, Text.ofString]

/-- **What spells music is read as that music.** -/
theorem Music.ofText?_of_spells {m : Music} {t : Text} (h : m.Spells t) :
    Music.ofText? t = some m := by
  obtain ⟨hwell, count, unit, finish, hcount, hunit, hfinish, rfl⟩ := h
  obtain ⟨bracket, hopen, hfields, hspelling⟩ := Music.exists_bracket finish hwell hcount hunit
  have hcut : Text.cut? "]" (bracket ++ (']' : CodePoint)
      :: (Text.join "," (m.chords.map Chord.render) ++ finish))
      = some (bracket, Text.join "," (m.chords.map Chord.render) ++ finish) :=
    Text.cut?_singleton hopen _
  have hchords := chords?_join hwell.chords_ne_nil hwell.chords hfinish
  rw [Music.ofText?, hspelling, Text.after?_append]
  simp only [Option.bind_eq_bind, Option.bind_some, hcut, hfields,
    key?_render hwell.letter hwell.accidental, isMetre_of_numerals hcount hunit, hwell.bpm, hchords]
  rfl

theorem Music.spells_render {m : Music} (h : m.WellFormed) : m.Spells m.render := by
  have hne : m.chords.map Chord.render ≠ [] := by simpa using h.chords_ne_nil
  refine ⟨h, "4", "4", ",", by decide, by decide, .inr rfl, ?_⟩
  rw [Music.render, Music.bracket, Music.body, Music.spelling, List.append_assoc _ _ ("," : Text),
    ← Text.flatMap_end hne, List.flatMap_map]
  simp [Text.ofString]

/-- The reader undoes the printer of a whole sheet's music. -/
theorem Music.ofText?_render {m : Music} (h : m.WellFormed) : Music.ofText? m.render = some m :=
  Music.ofText?_of_spells (Music.spells_render h)

end SongSheet.CipherSheet
