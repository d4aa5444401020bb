import SongSheet.Proofs.CipherSheet.Acceptance

/-!
# Cutting music a second time

The grammar takes music apart as a whole, and whoever only checks it with a pattern has to cut the
beats out of it again: at the commas, each beat where its first step stands, its notes at the
ampersands. The marks are then looked for one by one, and **what stands between them is passed over
without a word** (`findMarks`). Nothing but the grammar makes sure that nothing is lost on the way,
and that no piece is left that is no beat.

Here is the second cut, which may fail (`recut?`). It takes no notice of the first one, and **of a
text that spells music it finds the same chords** (`recut?_of_spells`).
-/

set_option autoImplicit false

namespace SongSheet.CipherSheet

/-! ## 1. The second cut -/

/-- The marks of a text with the digits right behind each. A mark that `counts` needs a digit, and
without one it is passed over like any other code point. Digits are no marks, so the search may go
on right behind a mark. -/
def findMarks (isMark : CodePoint → Bool) (counts : Bool) : Text → List Counted
  | [] => []
  | c :: t =>
    let digits := (Text.takeDigits t).1
    if isMark c && (!counts || !digits.isEmpty) then ⟨c, digits⟩ :: findMarks isMark counts t
    else findMarks isMark counts t

/-- A piece up to its first step, and the steps: there has to be something before them, and they
have to be steps from the first to the last. -/
def beatParts? (piece : Text) : Option (Text × Text) :=
  let (notes, steps) := piece.span fun c => !isStep c
  let (before, counted) := cutAtMarks isStep steps
  if !notes.isEmpty && before.isEmpty && counted.all (isNumeral ·.digits) then some (notes, steps)
  else none

/-- The first code point of a piece, and the modifiers that are found behind it. -/
def recutNote? : Text → Option Note
  | [] => none
  | digit :: t => some ⟨digit, findMarks isModifier false t⟩

/-- The notes of a piece and the steps that are found behind them. -/
def recutChord? (piece : Text) : Option Chord := do
  let (before, steps) ← beatParts? piece
  let notes ← (Text.splitOn '&' before).mapM recutNote?
  return ⟨notes, findMarks isStep true steps⟩

/-- The chords of the pieces behind the bracket that are not empty. -/
def recut? (t : Text) : Option (List Chord) := do
  let (_, body) ← Text.cut? "]" t
  ((Text.splitOn ',' body).filter (!·.isEmpty)).mapM recutChord?

/-! ## 2. Marks are found -/

theorem findMarks_append {isMark : CodePoint → Bool} {counts : Bool} {before : Text}
    (h : ∀ c ∈ before, isMark c = false) (t : Text) :
    findMarks isMark counts (before ++ t) = findMarks isMark counts t := by
  induction before with
  | nil => rfl
  | cons c before ih =>
    rw [List.cons_append, findMarks, ih fun d hd => h d (by simp [hd])]
    simp [h c (by simp)]

/-- **All marks with their digits are found**, if no digit is a mark and none lacks its count. -/
theorem findMarks_render {isMark : CodePoint → Bool} {counts : Bool} {counted : List Counted}
    (hdigit : ∀ c : CodePoint, c.isDigit = true → isMark c = false)
    (h : ∀ m ∈ counted, isMark m.mark = true ∧ areDigits m.digits = true
      ∧ (counts = true → m.digits ≠ [])) :
    findMarks isMark counts (counted.flatMap Counted.render) = counted := by
  induction counted with
  | nil => rfl
  | cons m counted ih =>
    obtain ⟨⟨hmark, hdigits, hcount⟩, hothers⟩ := List.forall_mem_cons.mp h
    -- The digits of a mark end where the next mark stands.
    have hends : ∀ c ∈ (counted.flatMap Counted.render).head?, c.isDigit = false := by
      intro c hc
      cases counted with
      | nil => cases hc
      | cons next counted =>
        cases hc
        rw [← Bool.not_eq_true]
        intro hnext
        exact absurd (hdigit _ hnext) (by simp [(hothers next (by simp)).1])
    have htake := Text.takeDigits_append (fun c hc => mem_of_areDigits hdigits hc) hends
    have hfound : (!counts || !m.digits.isEmpty) = true := by
      cases counts with
      | false => rfl
      | true => simpa using hcount rfl
    rw [List.flatMap_cons, Counted.render, List.cons_append, findMarks, htake]
    dsimp only
    rw [if_pos (by rw [hmark, hfound]; rfl),
      findMarks_append fun c hc => hdigit c (mem_of_areDigits hdigits hc), ih hothers]

/-! ## 3. The same chords -/

theorem recutNote?_render {n : Note} (h : n.WellFormed) : recutNote? n.render = some n := by
  have hfound : findMarks isModifier false (n.modifiers.flatMap Counted.render) = n.modifiers := by
    refine findMarks_render (fun _ => not_isModifier_of_isDigit) fun m hm => ?_
    obtain ⟨hmark, hdigits⟩ := h.modifiers m hm
    exact ⟨hmark, hdigits, nofun⟩
  rw [Note.render, recutNote?, hfound]

/-- A chord is cut where its first step stands. -/
theorem beatParts?_render {c : Chord} (h : c.WellFormed) : beatParts? c.render
    = some (Text.join "&" (c.notes.map Note.render), c.steps.flatMap Counted.render) := by
  have hspan : c.render.span (fun d => !isStep d)
      = (Text.join "&" (c.notes.map Note.render), c.steps.flatMap Counted.render) := by
    have hnotes : ∀ d ∈ Text.join "&" (c.notes.map Note.render), (!isStep d) = true :=
      fun d hd => by rw [Chord.not_isStep_of_mem_notes h hd]; rfl
    have hsteps : ∀ d ∈ (c.steps.flatMap Counted.render).head?, isStep d = true := by
      intro d hd
      cases hcases : c.steps with
      | nil =>
        rw [hcases] at hd
        cases hd
      | cons s steps =>
        rw [hcases] at hd
        cases hd
        exact (h.steps s (by simp [hcases])).1
    rw [Chord.render, List.span_eq_takeWhile_dropWhile, List.takeWhile_append_of_pos hnotes,
      List.dropWhile_append_of_pos hnotes]
    cases hcases : c.steps.flatMap Counted.render with
    | nil => simp
    | cons d rest =>
      rw [hcases] at hsteps
      simp [hsteps d rfl]
  have hcut : cutAtMarks isStep (c.steps.flatMap Counted.render) = ([], c.steps) := by
    have hnone : ∀ d ∈ ([] : Text), isStep d = false := fun _ hd => absurd hd List.not_mem_nil
    refine cutAtMarks_render hnone fun s hs => ?_
    obtain ⟨hmark, hdigits⟩ := h.steps s hs
    exact ⟨hmark, fun d hd =>
      not_isStep_of_isDigit (mem_of_areDigits (areDigits_of_isNumeral hdigits) hd)⟩
  have hne : Text.join "&" (c.notes.map Note.render) ≠ [] := Chord.join_notes_ne_nil h
  have hall : c.steps.all (isNumeral ·.digits) = true :=
    List.all_eq_true.mpr fun s hs => (h.steps s hs).2
  rw [beatParts?, hspan]
  dsimp only
  rw [hcut]
  simp [hne, hall]

theorem recutChord?_render {c : Chord} (h : c.WellFormed) : recutChord? c.render = some c := by
  have hread : (Text.splitOn '&' (Text.join "&" (c.notes.map Note.render))).mapM recutNote?
      = some c.notes := by
    rw [Chord.splitOn_notes h]
    have := mapM_map_eq_pure (m := Option) (k := id) fun n hn => recutNote?_render (h.notes n hn)
    simpa using this
  have hfound : findMarks isStep true (c.steps.flatMap Counted.render) = c.steps := by
    refine findMarks_render (fun _ => not_isStep_of_isDigit) fun s hs => ?_
    obtain ⟨hmark, hdigits⟩ := h.steps s hs
    refine ⟨hmark, areDigits_of_isNumeral hdigits, fun _ hnil => ?_⟩
    rw [hnil] at hdigits
    cases hdigits
  rw [recutChord?, beatParts?_render h]
  simp only [Option.bind_eq_bind, Option.bind_some, hread, hfound]
  rfl

/-- **The second cut finds the chords that a text spells**, and fails at none of them. -/
theorem recut?_of_spells {m : Music} {t : Text} (h : m.Spells t) : recut? t = some m.chords := by
  obtain ⟨hwell, count, unit, finish, hcount, hunit, hfinish, rfl⟩ := h
  obtain ⟨bracket, hopen, -, hspelling⟩ := Music.exists_bracket finish hwell hcount hunit
  have hcut : Text.cut? "]" (("[1=" : Text) ++ (bracket ++ (']' : CodePoint)
      :: (Text.join "," (m.chords.map Chord.render) ++ finish)))
      = some (("[1=" : Text) ++ bracket, Text.join "," (m.chords.map Chord.render) ++ finish) := by
    rw [← List.append_assoc]
    refine Text.cut?_singleton (fun hc => ?_) _
    rcases List.mem_append.mp hc with hc | hc
    · exact absurd hc (by decide)
    · exact hopen hc
  have hpieces : (Text.splitOn ',' (Text.join "," (m.chords.map Chord.render) ++ finish)).filter
      (!·.isEmpty) = m.chords.map Chord.render := by
    have hkept : (m.chords.map Chord.render).filter (!·.isEmpty) = m.chords.map Chord.render := by
      rw [List.filter_eq_self]
      intro piece hpiece
      obtain ⟨c, hc, rfl⟩ := List.mem_map.mp hpiece
      simpa using Chord.render_ne_nil (hwell.chords c hc)
    rw [splitOn_chords hwell.chords_ne_nil hwell.chords hfinish, List.filter_append, hkept]
    split <;> exact List.append_nil _
  have hread : (m.chords.map Chord.render).mapM recutChord? = some m.chords := by
    have := mapM_map_eq_pure (m := Option) (k := id) fun c hc =>
      recutChord?_render (hwell.chords c hc)
    simpa using this
  rw [recut?, hspelling, hcut]
  simp only [Option.bind_eq_bind, Option.bind_some, hpieces, hread]

end SongSheet.CipherSheet
