import SongSheet.Proofs.CipherSheet.Header

/-!
# Music with comments and blanks in it

Blanks and comments may stand anywhere in the music of a cipher sheet, within numbers too, and
**none of them is heard** (`read_padded`). Three passes take them out, one after another, and slash
and star are marks of comments as well as of rates. A comment that one pass leaves must not run into
what stands before it when the next pass comes, and a slash of the music must not open a comment
with what is put behind it: this is all that a line comment right behind a slash would do, and no
other filler does.

A padded text is music with a gap behind every code point (`Padded`). The first two passes are the
same argument: a pass over comments is a change of the fillers in the gaps (`IsPass.text`), the
block comments going away and the line comments turning into line feeds. What is left for the last
pass are blanks.
-/

set_option autoImplicit false

namespace SongSheet.CipherSheet

/-! ## 1. Padded texts -/

/-- What may be put into music: a blank, a block comment, or a comment to the end of the line. -/
inductive Filler where
  | blank (c : CodePoint)
  | block (body : Text)
  | line (body : Text)
  deriving DecidableEq, Repr

namespace Filler

def text : Filler → Text
  | blank c => [c]
  | block body => ("/*" : Text) ++ body ++ ("*/" : Text)
  | line body => ("//" : Text) ++ body ++ ("\n" : Text)

/-- A filler that is what it is meant to be: a blank is blank, a comment ends where it ends, and a
line comment opens no block comment. -/
def IsProper : Filler → Prop
  | blank c => c.isBlank = true
  | block body => ¬ ("*/" : Text) <:+: body
  | line body =>
    ('\n' : CodePoint) ∉ body ∧ ¬ ("/*" : Text) <:+: body ∧ body.head? ≠ some (.ofChar '*')

instance : DecidablePred IsProper
  | blank c => inferInstanceAs (Decidable (c.isBlank = true))
  | block _ => inferInstanceAs (Decidable ¬_)
  | line _ => inferInstanceAs (Decidable (_ ∧ _))

def isLine : Filler → Bool
  | line _ => true
  | _ => false

theorem text_ne_nil (filler : Filler) : filler.text ≠ [] := by
  cases filler <;> exact List.cons_ne_nil _ _

end Filler

/-- The fillers of a gap, one after the other. -/
def fill (gap : List Filler) : Text := gap.flatMap Filler.text

/-- A text with fillers in front of it and behind each of its code points. -/
structure Padded where
  lead : List Filler
  marks : List (CodePoint × List Filler)

/-- Code points with the gaps behind them. -/
def spread (marks : List (CodePoint × List Filler)) : Text :=
  marks.flatMap fun mark => mark.1 :: fill mark.2

namespace Padded

/-- The code points without what was put between them. -/
def bare (p : Padded) : Text := p.marks.map (·.1)

/-- The code points with what was put between them. -/
def text (p : Padded) : Text := fill p.lead ++ spread p.marks

/-- All fillers of a padded text. -/
def fillers (p : Padded) : List Filler := p.lead ++ p.marks.flatMap (·.2)

/-- A padded text whose fillers are proper, and no line comment is put behind a slash. -/
structure IsProper (p : Padded) : Prop where
  fillers : ∀ filler ∈ p.fillers, filler.IsProper
  slash : ∀ mark ∈ p.marks, mark.1 = '/' → ∀ filler ∈ mark.2, filler.isLine = false

/-- The same code points with other fillers. -/
def refill (f : Filler → List Filler) (p : Padded) : Padded :=
  ⟨p.lead.flatMap f, p.marks.map fun mark => (mark.1, mark.2.flatMap f)⟩

@[simp] theorem bare_refill (f : Filler → List Filler) (p : Padded) :
    (p.refill f).bare = p.bare := by
  simp [bare, refill]

theorem fillers_refill (f : Filler → List Filler) (p : Padded) :
    (p.refill f).fillers = p.fillers.flatMap f := by
  simp [fillers, refill, List.flatMap_map, List.flatMap_assoc]

end Padded

/-! ## 2. A pass over comments is a change of the fillers -/

theorem drop_fill {drop : Text → Text} {f : Filler → List Filler} {gap : List Filler}
    (hfill : ∀ filler ∈ gap, ∀ rest, drop (filler.text ++ rest) = fill (f filler) ++ drop rest)
    (rest : Text) : drop (fill gap ++ rest) = fill (gap.flatMap f) ++ drop rest := by
  induction gap with
  | nil => rfl
  | cons filler gap ih =>
    obtain ⟨hfiller, hgap⟩ := List.forall_mem_cons.mp hfill
    calc drop (fill (filler :: gap) ++ rest)
        = drop (filler.text ++ (fill gap ++ rest)) := by simp [fill]
      _ = fill (f filler) ++ (fill (gap.flatMap f) ++ drop rest) := by rw [hfiller, ih hgap]
      _ = fill ((filler :: gap).flatMap f) ++ drop rest := by simp [fill]

section

variable {second : CodePoint} {drop : Text → Text} {f : Filler → List Filler}

/-- What stands behind a code point, in its gap or behind that, opens no comment with it. -/
theorem opens_none {c : CodePoint} {gap : List Filler} {marks : List (CodePoint × List Filler)}
    (hquiet : ¬ [.ofChar '/', second] <:+: c :: marks.map (·.1))
    (hslash : c = '/' → ∀ filler ∈ gap, filler.text.head? ≠ some second) :
    c ≠ '/' ∨ (fill gap ++ spread marks).head? ≠ some second := by
  rw [← not_and_or]
  rintro ⟨rfl, hhead⟩
  -- What is behind the slash is the next code point of the music, or a filler begins there.
  cases gap with
  | nil =>
    cases marks with
    | nil => cases hhead
    | cons next marks =>
      cases hhead
      exact hquiet ⟨[], _, rfl⟩
  | cons filler gap =>
    obtain ⟨d, rest, htext⟩ := List.exists_cons_of_ne_nil filler.text_ne_nil
    have hfirst := hslash rfl filler List.mem_cons_self
    rw [htext] at hfirst
    simp only [fill, List.flatMap_cons, htext] at hhead
    exact hfirst hhead

theorem IsPass.spread (hdrop : IsPass second drop) {marks : List (CodePoint × List Filler)}
    (hquiet : ¬ [.ofChar '/', second] <:+: marks.map (·.1))
    (hfill : ∀ filler ∈ marks.flatMap (·.2), ∀ rest,
      drop (filler.text ++ rest) = fill (f filler) ++ drop rest)
    (hslash : ∀ mark ∈ marks, mark.1 = '/' → ∀ filler ∈ mark.2,
      filler.text.head? ≠ some second) :
    drop (CipherSheet.spread marks)
      = CipherSheet.spread (marks.map fun mark => (mark.1, mark.2.flatMap f)) := by
  induction marks with
  | nil => exact hdrop.nil
  | cons mark marks ih =>
    obtain ⟨c, gap⟩ := mark
    obtain ⟨hgap, hmarks⟩ := List.forall_mem_append.mp hfill
    obtain ⟨hmark, hslash⟩ := List.forall_mem_cons.mp hslash
    have hrest := ih (fun h => hquiet (List.infix_cons h)) hmarks hslash
    calc drop (CipherSheet.spread ((c, gap) :: marks))
        = drop (c :: (fill gap ++ CipherSheet.spread marks)) := rfl
      _ = c :: drop (fill gap ++ CipherSheet.spread marks) := hdrop.cons (opens_none hquiet hmark)
      _ = c :: (fill (gap.flatMap f) ++ drop (CipherSheet.spread marks)) := by rw [drop_fill hgap]
      _ = CipherSheet.spread (((c, gap) :: marks).map fun mark => (mark.1, mark.2.flatMap f)) := by
          rw [hrest]
          rfl

/-- **A pass goes along a padded text gap by gap**, if it does so along each filler, and nothing
that stands behind a slash opens a comment with it. -/
theorem IsPass.text (hdrop : IsPass second drop) {p : Padded}
    (hquiet : ¬ [.ofChar '/', second] <:+: p.bare)
    (hfill : ∀ filler ∈ p.fillers, ∀ rest,
      drop (filler.text ++ rest) = fill (f filler) ++ drop rest)
    (hslash : ∀ mark ∈ p.marks, mark.1 = '/' → ∀ filler ∈ mark.2,
      filler.text.head? ≠ some second) : drop p.text = (p.refill f).text := by
  obtain ⟨hlead, hmarks⟩ := List.forall_mem_append.mp hfill
  rw [Padded.text, drop_fill hlead, hdrop.spread hquiet hmarks hslash]
  rfl

end

/-! ## 3. The three passes -/

/-- A block comment is taken out, the other fillers stay. -/
def Filler.unblocked : Filler → List Filler
  | .block _ => []
  | filler => [filler]

/-- A line comment leaves the line feed that ends it, the other fillers stay. -/
def Filler.unlined : Filler → List Filler
  | .line _ => [.blank '\n']
  | filler => [filler]

theorem dropBlockComments_filler {filler : Filler} (h : filler.IsProper) (rest : Text) :
    dropBlockComments false (filler.text ++ rest)
      = fill filler.unblocked ++ dropBlockComments false rest := by
  cases filler with
  | blank c => exact isPass_dropBlockComments.cons (.inl (ne_slash_of_isBlank h))
  | block body => exact dropBlockComments_comment h rest
  | line body =>
    obtain ⟨-, hopen, hstar⟩ := h
    have hquiet : ¬ ("/*" : Text) <:+: (Filler.line body).text :=
      pair_not_infix_append (pair_not_infix_append (by decide) hopen (.inr hstar)) (by decide)
        (.inr (by decide))
    have hlast : (Filler.line body).text.getLast? ≠ some (.ofChar '/') := by
      rw [Filler.text, List.getLast?_append_of_ne_nil _ (by decide)]
      decide
    rw [isPass_dropBlockComments.append hquiet (.inl hlast)]
    simp [fill, Filler.unblocked]

/-- Inside a line comment everything is dropped up to the end of the line. -/
theorem dropLineComments_inside {body : Text} (h : ('\n' : CodePoint) ∉ body) (rest : Text) :
    dropLineComments true (body ++ .ofChar '\n' :: rest)
      = .ofChar '\n' :: dropLineComments false rest := by
  induction body with
  | nil => exact if_pos rfl
  | cons c body ih =>
    rw [List.mem_cons, not_or] at h
    rw [List.cons_append, dropLineComments, if_neg (Ne.symm h.1), if_pos (Bool.true_or _), ih h.2]

theorem dropLineComments_filler {filler : Filler} (h : filler.IsProper)
    (hblock : ∀ body, filler ≠ .block body) (rest : Text) :
    dropLineComments false (filler.text ++ rest)
      = fill filler.unlined ++ dropLineComments false rest := by
  cases filler with
  | blank c => exact isPass_dropLineComments.cons (.inl (ne_slash_of_isBlank h))
  | block body => exact absurd rfl (hblock body)
  | line body =>
    have htext : (Filler.line body).text ++ rest
        = .ofChar '/' :: .ofChar '/' :: (body ++ .ofChar '\n' :: rest) := by
      simp [Filler.text, Text.ofString]
    have hopen : ∀ t, dropLineComments false (.ofChar '/' :: .ofChar '/' :: t)
        = dropLineComments true t := fun _ => rfl
    rw [htext, hopen, dropLineComments_inside h.1]
    rfl

theorem mem_unblocked {filler g : Filler} (h : filler ∈ g.unblocked) :
    filler = g ∧ ∀ body, g ≠ .block body := by
  cases g with
  | blank c => exact ⟨List.mem_singleton.mp h, nofun⟩
  | block body => cases h
  | line body => exact ⟨List.mem_singleton.mp h, nofun⟩

namespace Padded

variable {p : Padded}

theorem dropBlockComments_text (hp : p.IsProper) (hquiet : Quiet p.bare) :
    dropBlockComments false p.text = (p.refill Filler.unblocked).text := by
  refine isPass_dropBlockComments.text hquiet.block
    (fun filler hfiller => dropBlockComments_filler (hp.fillers filler hfiller)) ?_
  intro mark hmark _ filler hfiller
  have hproper := hp.fillers filler
    (List.mem_append_right _ (List.mem_flatMap.mpr ⟨mark, hmark, hfiller⟩))
  cases filler with
  | blank c =>
    rintro ⟨⟩
    exact absurd hproper (by decide)
  | block body => exact fun h => absurd (Option.some.inj h) (by decide)
  | line body => exact fun h => absurd (Option.some.inj h) (by decide)

theorem dropLineComments_text (hp : p.IsProper) (hquiet : Quiet p.bare) :
    dropLineComments false (p.refill Filler.unblocked).text
      = ((p.refill Filler.unblocked).refill Filler.unlined).text := by
  have hline : ¬ ("//" : Text) <:+: (p.refill Filler.unblocked).bare := by
    rw [bare_refill]
    exact hquiet.line
  refine isPass_dropLineComments.text hline ?_ ?_
  · intro filler hfiller
    rw [fillers_refill] at hfiller
    obtain ⟨g, hg, hfiller⟩ := List.mem_flatMap.mp hfiller
    obtain ⟨rfl, hblock⟩ := mem_unblocked hfiller
    exact dropLineComments_filler (hp.fillers filler hg) hblock
  · -- Behind a slash there were blanks and block comments, so there are blanks left.
    intro mark hmark hslash filler hfiller
    obtain ⟨⟨c, gap⟩, hgap, rfl⟩ := List.mem_map.mp hmark
    obtain ⟨g, hg, hfiller⟩ := List.mem_flatMap.mp hfiller
    obtain ⟨rfl, hblock⟩ := mem_unblocked hfiller
    have hproper := hp.fillers filler
      (List.mem_append_right _ (List.mem_flatMap.mpr ⟨_, hgap, hg⟩))
    cases filler with
    | blank c => exact fun h => ne_slash_of_isBlank hproper (Option.some.inj h)
    | block body => exact absurd rfl (hblock body)
    | line body => cases hp.slash _ hgap hslash _ hg

theorem squeeze_fill {gap : List Filler}
    (h : ∀ filler ∈ gap, ∃ c, filler = .blank c ∧ c.isBlank = true) :
    Text.squeeze (fill gap) = [] := by
  rw [Text.squeeze, List.filter_eq_nil_iff]
  intro d hd
  obtain ⟨filler, hfiller, hd⟩ := List.mem_flatMap.mp hd
  obtain ⟨c, rfl, hc⟩ := h filler hfiller
  rw [List.mem_singleton.mp hd, hc]
  exact Bool.false_ne_true

/-- Blanks are squeezed out of the gaps. -/
theorem squeeze_spread {marks : List (CodePoint × List Filler)}
    (h : ∀ filler ∈ marks.flatMap (·.2), ∃ c, filler = .blank c ∧ c.isBlank = true)
    (hbare : ∀ c ∈ marks.map (·.1), c.isBlank = false) :
    Text.squeeze (spread marks) = marks.map (·.1) := by
  induction marks with
  | nil => rfl
  | cons mark marks ih =>
    obtain ⟨c, gap⟩ := mark
    obtain ⟨hc, hbare⟩ := List.forall_mem_cons.mp hbare
    obtain ⟨hgap, hmarks⟩ := List.forall_mem_append.mp h
    calc Text.squeeze (c :: (fill gap ++ spread marks))
        = c :: Text.squeeze (fill gap ++ spread marks) := List.filter_cons_of_pos (by simp [hc])
      _ = c :: marks.map (·.1) := by
          rw [Text.squeeze_append, squeeze_fill hgap, List.nil_append, ih hmarks hbare]

/-- **Comments and blanks leave the music as it is.** -/
theorem music_text (hp : p.IsProper) (hquiet : Quiet p.bare)
    (hbare : ∀ c ∈ p.bare, c.isBlank = false) : music p.text = p.bare := by
  have hfillers : ∀ filler ∈ ((p.refill Filler.unblocked).refill Filler.unlined).fillers,
      ∃ c, filler = .blank c ∧ c.isBlank = true := by
    intro filler hfiller
    simp only [fillers_refill, List.mem_flatMap] at hfiller
    obtain ⟨h, ⟨g, hg, hh⟩, hfiller⟩ := hfiller
    obtain ⟨rfl, hblock⟩ := mem_unblocked hh
    cases h with
    | blank c =>
      refine ⟨c, List.mem_singleton.mp hfiller, hp.fillers _ hg⟩
    | block body => exact absurd rfl (hblock body)
    | line body => exact ⟨_, List.mem_singleton.mp hfiller, by decide⟩
  obtain ⟨hlead, hmarks⟩ := List.forall_mem_append.mp hfillers
  have hbare' : ((p.refill Filler.unblocked).refill Filler.unlined).bare = p.bare := by simp
  rw [← hbare'] at hbare
  rw [music, dropBlockComments_text hp hquiet, dropLineComments_text hp hquiet, text,
    Text.squeeze_append, squeeze_fill hlead, List.nil_append, squeeze_spread hmarks hbare]
  exact hbare'

end Padded

/-! ## 4. What is read -/

/-- **Comments and blanks in the music of a sheet are not heard**: the sheet is read as the same
score, but for its metadata, or refused with the same words. -/
theorem read_padded {p : Padded} (hp : p.IsProper) {m : Music} (hform : m.Spells p.bare)
    (fileName fileName' : Option Text) :
    (∃ score score', read fileName p.text = .ok score ∧ read fileName' p.bare = .ok score'
      ∧ score.SameMusic score')
    ∨ ∃ e, read fileName p.text = .error e ∧ read fileName' p.bare = .error e := by
  have hquiet := Music.quiet_of_spells hform
  have hblank := Music.isBlank_of_spells hform
  have hself : music p.bare = p.bare :=
    (music_of_quiet hquiet).trans (Music.squeeze_of_spells hform)
  exact read_alike fileName fileName' ((Padded.music_text hp hquiet hblank).trans hself.symm)

/-- Comments within numbers, a block comment between the slash and its count, marks of comments in
comments, and a line comment in front. -/
theorem read_padded_sample :
    ∃ (p : Padded) (m : Music), p.IsProper ∧ m.Spells p.bare
      ∧ p.text = "// a*/ \n[1=C,4/4,1/* 9 */2//0\n0]\t1*2/ /*/*//**/3,"
      ∧ p.bare = "[1=C,4/4,120]1*2/3,"
      ∧ ((∃ score score', read none p.text = .ok score ∧ read none p.bare = .ok score'
          ∧ score.SameMusic score')
        ∨ ∃ e, read none p.text = .error e ∧ read none p.bare = .error e) := by
  let p : Padded := ⟨[.line " a*/ "], [('[', []), ('1', []), ('=', []), ('C', []), (',', []),
    ('4', []), ('/', []), ('4', []), (',', []), ('1', [.block " 9 "]), ('2', [.line "0"]),
    ('0', []), (']', [.blank '\t']), ('1', []), ('*', []), ('2', []),
    ('/', [.blank ' ', .block "/", .block []]), ('3', []), (',', [])]⟩
  let m : Music := ⟨'C', none, "120", [⟨[⟨'1', []⟩], [⟨'*', "2"⟩, ⟨'/', "3"⟩]⟩]⟩
  have hp : p.IsProper := ⟨by decide +kernel, by decide +kernel⟩
  have hform : m.Spells p.bare := Music.ofText?_eq_some_iff.mp (by decide +kernel)
  exact ⟨p, m, hp, hform, by decide +kernel, by decide +kernel, read_padded hp hform none none⟩

end SongSheet.CipherSheet
