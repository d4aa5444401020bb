import Mathlib.Data.List.Infix
import Mathlib.Data.List.TakeDrop
import Mathlib.Data.List.TakeWhile
import SongSheet.Text.Blank

/-!
# Cutting texts

What the cuts of `SongSheet.Text` do to a text whose parts are known: the front that is taken off
(`after?`), the first place where something stands (`cut?`), the pieces between separators
(`splitOn`), the words and the ends.

The statements are all of one kind. A text is given as parts, one after the other, and the cut gives
the parts back as long as **no part holds what is searched for**. That side condition is where every
reader's grammar enters, so it is always a plain membership or an infix, never a fact about the cut
itself.
-/

set_option autoImplicit false

namespace SongSheet.Text

/-! ## 1. The front of a text -/

theorem after?_append (start t : Text) : after? start (start ++ t) = some t := by
  induction start with
  | nil => rfl
  | cons c start ih => simp [after?, ih]

/-- What follows `start` is what makes the text up again. -/
theorem after?_eq_some_iff {start t rest : Text} :
    after? start t = some rest ↔ t = start ++ rest := by
  constructor
  · intro h
    induction start generalizing t with
    | nil =>
      cases h
      rfl
    | cons c start ih =>
      cases t with
      | nil => cases h
      | cons d t =>
        rw [after?] at h
        split at h
        case isTrue hcd => rw [hcd, ih h, List.cons_append]
        case isFalse => cases h
  · rintro rfl
    exact after?_append start rest

theorem suffix_of_after? {start t rest : Text} (h : after? start t = some rest) : rest <:+ t :=
  ⟨start, (after?_eq_some_iff.mp h).symm⟩

theorem after?_eq_none_iff {start t : Text} : after? start t = none ↔ ¬ start <+: t := by
  rw [Option.eq_none_iff_forall_ne_some]
  constructor
  · rintro h ⟨rest, rfl⟩
    exact h rest (after?_append start rest)
  · intro h rest hrest
    exact h ⟨rest, (after?_eq_some_iff.mp hrest).symm⟩

/-! ## 2. The first place -/

theorem cut?_append_self (needle t : Text) : cut? needle (needle ++ t) = some ([], t) := by
  rw [cut?.eq_def, after?_append]

theorem cut?_cons {needle : Text} {c : CodePoint} {t : Text} (h : ¬ needle <+: c :: t) :
    cut? needle (c :: t) = (cut? needle t).map fun (before, rest) => (c :: before, rest) := by
  rw [cut?.eq_def, after?_eq_none_iff.mpr h]

/-- The parts of a cut, with what was searched for between them, make the text up again. -/
theorem eq_append_of_cut? {needle t before rest : Text} (h : cut? needle t = some (before, rest)) :
    t = before ++ needle ++ rest := by
  induction t generalizing before with
  | nil =>
    rw [cut?.eq_def] at h
    split at h
    case h_1 u hafter =>
      cases h
      exact after?_eq_some_iff.mp hafter
    case h_2 => cases h
  | cons c t ih =>
    rw [cut?.eq_def] at h
    split at h
    case h_1 u hafter =>
      cases h
      exact after?_eq_some_iff.mp hafter
    case h_2 =>
      obtain ⟨⟨before, rest⟩, hcut, h⟩ := Option.map_eq_some_iff.mp h
      cases h
      rw [ih hcut, List.cons_append, List.cons_append]

/-- What is cut off in front does not hold what was searched for. -/
theorem not_infix_of_cut? {needle t before rest : Text} (hne : needle ≠ [])
    (h : cut? needle t = some (before, rest)) : ¬ needle <:+: before := by
  induction t generalizing before with
  | nil =>
    have hparts := eq_append_of_cut? h
    rw [eq_comm, List.append_eq_nil_iff, List.append_eq_nil_iff] at hparts
    exact absurd hparts.1.2 hne
  | cons c t ih =>
    by_cases hhere : needle <+: c :: t
    · obtain ⟨u, hu⟩ := hhere
      rw [← hu, cut?_append_self] at h
      cases h
      exact fun hi => hne (List.eq_nil_of_infix_nil hi)
    · have hwhole := h
      rw [cut?_cons hhere] at h
      obtain ⟨⟨earlier, later⟩, hcut, hpair⟩ := Option.map_eq_some_iff.mp h
      cases hpair
      rw [List.infix_cons_iff]
      rintro (hstart | hi)
      · have hprefix : c :: earlier <+: c :: t := by
          rw [eq_append_of_cut? hwhole, List.append_assoc]
          exact List.prefix_append _ _
        exact hhere (hstart.trans hprefix)
      · exact ih hcut hi

/-- An end of a text that does not hold what a text is cut at stays whole. -/
theorem suffix_of_cut?_of_not_mem {c : CodePoint} {t u before rest : Text} (hu : c ∉ u)
    (h : cut? [c] (t ++ u) = some (before, rest)) : u <:+ rest := by
  have hparts := eq_append_of_cut? h
  rw [List.append_assoc, List.singleton_append, List.append_eq_append_iff] at hparts
  rcases hparts with ⟨seam, -, rfl⟩ | ⟨seam, -, hseam⟩
  · exact absurd (by simp) hu
  · cases seam with
    | nil =>
      rw [List.nil_append] at hseam
      exact absurd (hseam ▸ List.mem_cons_self) hu
    | cons d seam =>
      cases hseam
      exact List.suffix_append seam u

/-- A text is cut before or at any place where the code point stands. -/
theorem suffix_of_cut?_of_mem {c : CodePoint} {t u before rest : Text}
    (h : cut? [c] (t ++ c :: u) = some (before, rest)) : u <:+ rest := by
  have hhere : ∀ v, cut? [c] (c :: v) = some ([], v) := cut?_append_self [c]
  induction t generalizing before with
  | nil =>
    rw [List.nil_append, hhere] at h
    cases h
    exact List.suffix_refl _
  | cons d t ih =>
    by_cases hd : c = d
    · subst hd
      rw [List.cons_append, hhere] at h
      cases h
      exact (List.suffix_cons c u).trans (List.suffix_append t _)
    · rw [List.cons_append, cut?_cons (fun hp => hd (List.cons_prefix_cons.mp hp).1)] at h
      obtain ⟨⟨before, rest⟩, hcut, h⟩ := Option.map_eq_some_iff.mp h
      cases h
      exact ih hcut

/-- A text is cut at a code point that does not stand in the part before. -/
theorem cut?_singleton {c : CodePoint} {before : Text} (h : c ∉ before) (rest : Text) :
    cut? [c] (before ++ c :: rest) = some (before, rest) := by
  induction before with
  | nil => exact cut?_append_self [c] rest
  | cons d before ih =>
    rw [List.mem_cons, not_or] at h
    rw [List.cons_append, cut?_cons, ih h.2]
    · rfl
    · rw [List.cons_prefix_cons]
      exact fun hp => h.1 hp.1

/-- A text is cut at two different code points that do not stand next to each other in the part
before. The two must differ, or the last of `before` could start the pair. -/
theorem cut?_pair {c d : CodePoint} (hcd : c ≠ d) {before : Text} (h : ¬ [c, d] <:+: before)
    (rest : Text) : cut? [c, d] (before ++ c :: d :: rest) = some (before, rest) := by
  induction before with
  | nil => exact cut?_append_self [c, d] rest
  | cons e before ih =>
    have htail : ¬ [c, d] <:+: before := fun hi => h (List.infix_cons hi)
    rw [List.cons_append, cut?_cons, ih htail]
    · rfl
    · rw [List.cons_prefix_cons]
      rintro ⟨rfl, hp⟩
      cases before with
      | nil =>
        rw [List.nil_append, List.cons_prefix_cons] at hp
        exact hcd hp.1.symm
      | cons f before =>
        rw [List.cons_append, List.cons_prefix_cons] at hp
        obtain ⟨rfl, -⟩ := hp
        exact h ⟨[], before, rfl⟩

theorem contains_eq_true {needle before rest : Text} :
    contains needle (before ++ needle ++ rest) = true := by
  induction before with
  | nil => rw [contains, List.nil_append, cut?_append_self, Option.isSome_some]
  | cons c before ih =>
    rw [List.cons_append, List.cons_append, contains, cut?.eq_def]
    split
    · rfl
    · rw [Option.isSome_map]
      exact ih

/-! ## 3. Pieces -/

/-- A piece without the separator joins the first of the pieces that follow. -/
theorem splitOn_append {separator : CodePoint} {piece t first : Text} {others : List Text}
    (h : separator ∉ piece) (ht : splitOn separator t = first :: others) :
    splitOn separator (piece ++ t) = (piece ++ first) :: others := by
  induction piece with
  | nil => exact ht
  | cons c piece ih =>
    rw [List.mem_cons, not_or] at h
    rw [List.cons_append, splitOn, if_neg (Ne.symm h.1), ih h.2]
    rfl

theorem splitOn_of_not_mem {separator : CodePoint} {t : Text} (h : separator ∉ t) :
    splitOn separator t = [t] := by
  simpa using splitOn_append (t := []) h rfl

theorem splitOn_append_cons {separator : CodePoint} {piece : Text} (h : separator ∉ piece)
    (t : Text) : splitOn separator (piece ++ separator :: t) = piece :: splitOn separator t := by
  have ht : splitOn separator (separator :: t) = [] :: splitOn separator t := by
    rw [splitOn, if_pos rfl]
  simpa using splitOn_append h ht

theorem mem_join {separator : Text} {pieces : List Text} {c : CodePoint}
    (hc : c ∈ join separator pieces) : c ∈ separator ∨ ∃ piece ∈ pieces, c ∈ piece := by
  induction pieces with
  | nil => cases hc
  | cons piece pieces ih =>
    cases pieces with
    | nil => exact Or.inr ⟨piece, by simp, hc⟩
    | cons next others =>
      rw [join, List.mem_append, List.mem_append] at hc
      rcases hc with (hc | hc) | hc
      · exact Or.inr ⟨piece, by simp, hc⟩
      · exact Or.inl hc
      · rcases ih hc with hc | ⟨p, hp, hc⟩
        · exact Or.inl hc
        · exact Or.inr ⟨p, List.mem_cons_of_mem _ hp, hc⟩

/-- **Pieces that are joined come apart again**, as long as none of them holds the separator. -/
theorem splitOn_join {separator : CodePoint} : ∀ {pieces : List Text}, pieces ≠ [] →
    (∀ piece ∈ pieces, separator ∉ piece) → splitOn separator (join [separator] pieces) = pieces
  | [], hne, _ => absurd rfl hne
  | [piece], _, h => splitOn_of_not_mem (h piece (by simp))
  | piece :: next :: others, _, h => by
    rw [join, List.append_assoc, List.singleton_append, splitOn_append_cons (h piece (by simp)),
      splitOn_join (by simp) fun p hp => h p (List.mem_cons_of_mem _ hp)]

theorem splitOn_ne_nil (separator : CodePoint) (t : Text) : splitOn separator t ≠ [] := by
  cases t with
  | nil => exact List.cons_ne_nil _ _
  | cons c t =>
    rw [splitOn]
    split
    · exact List.cons_ne_nil _ _
    · split <;> exact List.cons_ne_nil _ _

/-- Pieces joined again are the text that they were cut from. -/
theorem join_splitOn (separator : CodePoint) (t : Text) :
    join [separator] (splitOn separator t) = t := by
  induction t with
  | nil => rfl
  | cons c t ih =>
    obtain ⟨piece, pieces, hpieces⟩ := List.exists_cons_of_ne_nil (splitOn_ne_nil separator t)
    rw [hpieces] at ih
    rw [splitOn, hpieces, ← ih]
    by_cases hc : c = separator
    · rw [if_pos hc, hc]
      rfl
    · rw [if_neg hc]
      cases pieces <;> rfl

/-- Pieces that each end in the separator come apart with nothing after the last. -/
theorem splitOn_flatMap_end {separator : CodePoint} {pieces : List Text}
    (h : ∀ piece ∈ pieces, separator ∉ piece) :
    splitOn separator (pieces.flatMap (· ++ [separator])) = pieces ++ [[]] := by
  induction pieces with
  | nil => rfl
  | cons piece pieces ih =>
    rw [List.flatMap_cons, List.append_assoc, List.singleton_append,
      splitOn_append_cons (h piece (by simp)), ih fun p hp => h p (by simp [hp]), List.cons_append]

/-- Pieces that each end in the separator are pieces that are joined, and one separator more. -/
theorem flatMap_end {separator : Text} : ∀ {pieces : List Text}, pieces ≠ [] →
    pieces.flatMap (· ++ separator) = join separator pieces ++ separator
  | [], hne => absurd rfl hne
  | [piece], _ => List.flatMap_singleton _ _
  | piece :: next :: others, _ => by
    rw [List.flatMap_cons, flatMap_end (List.cons_ne_nil next others), join, List.append_assoc,
      List.append_assoc, List.append_assoc]

/-- An empty piece behind others is a separator behind them. -/
theorem join_concat_nil {separator : Text} : ∀ {pieces : List Text}, pieces ≠ [] →
    join separator (pieces ++ [[]]) = join separator pieces ++ separator
  | [], hne => absurd rfl hne
  | [piece], _ => List.append_nil _
  | piece :: next :: others, _ => by
    rw [List.cons_append, List.cons_append, join, ← List.cons_append,
      join_concat_nil (List.cons_ne_nil next others), join]
    simp only [List.append_assoc]

/-! ## 4. Ends and words -/

theorem squeeze_append (t u : Text) : squeeze (t ++ u) = squeeze t ++ squeeze u :=
  List.filter_append ..

/-- Nothing is dropped from a text whose first code point is to stay. -/
theorem dropWhile_eq_self {p : CodePoint → Bool} {t : Text} (h : ∀ c ∈ t.head?, p c = false) :
    t.dropWhile p = t := by
  cases t with
  | nil => rfl
  | cons c t => rw [List.dropWhile_cons, if_neg (by simp [h c (by simp)])]

/-- Nothing is dropped from the end of a text whose last code point is to stay. -/
theorem dropEnd_eq_self {p : CodePoint → Bool} {t : Text} (h : ∀ c ∈ t.getLast?, p c = false) :
    (t.reverse.dropWhile p).reverse = t := by
  rw [dropWhile_eq_self, List.reverse_reverse]
  simpa using h

/-- Nothing is trimmed in front of a text that starts with no blank, whatever follows it. -/
theorem trimLeft_append {t u : Text} (hhead : ∀ c ∈ t.head?, c.isBlank = false) (hne : t ≠ []) :
    trimLeft (t ++ u) = t ++ u := by
  refine dropWhile_eq_self fun c hc => hhead c ?_
  rwa [List.head?_append_of_ne_nil _ hne] at hc

/-- What follows a text that has no blank at its ends is trimmed at its own end only. -/
theorem exists_trim_append {t : Text} (hhead : ∀ c ∈ t.head?, c.isBlank = false)
    (hlast : ∀ c ∈ t.getLast?, c.isBlank = false) (hne : t ≠ []) (u : Text) :
    ∃ u', u' <+: u ∧ trim (t ++ u) = t ++ u' := by
  have hstay : t.reverse.dropWhile CodePoint.isBlank = t.reverse := by
    refine dropWhile_eq_self fun c hc => hlast c ?_
    rwa [List.head?_reverse] at hc
  have hdrop : (u.reverse ++ t.reverse).dropWhile CodePoint.isBlank
      = u.reverse.dropWhile CodePoint.isBlank ++ t.reverse := by
    rw [List.dropWhile_append, hstay]
    split
    case isTrue hempty => rw [List.isEmpty_iff.mp hempty, List.nil_append]
    case isFalse => rfl
  refine ⟨(u.reverse.dropWhile CodePoint.isBlank).reverse, ?_, ?_⟩
  · rw [← List.reverse_suffix, List.reverse_reverse]
    exact List.dropWhile_suffix _
  · rw [trim, trimLeft_append hhead hne, List.reverse_append, hdrop, List.reverse_append,
      List.reverse_reverse]

/-- Blanks behind a text go first. -/
theorem mem_of_mem_trim_append {t u : Text} (hhead : ∀ c ∈ t.head?, c.isBlank = false)
    (hne : t ≠ []) (hu : ∀ c ∈ u, c.isBlank = true) {c : CodePoint} (h : c ∈ trim (t ++ u)) :
    c ∈ t := by
  rw [trim, trimLeft_append hhead hne, List.reverse_append,
    List.dropWhile_append_of_pos fun c hc => hu c (List.mem_reverse.mp hc), List.mem_reverse] at h
  exact List.mem_reverse.mp ((List.dropWhile_suffix _).subset h)

/-- Behind a text that holds more than blanks nothing else is trimmed. -/
theorem trim_append {t u : Text} (hhead : ∀ c ∈ t.head?, c.isBlank = false) (hne : t ≠ [])
    (hu : ∃ c ∈ u, c.isBlank = false) :
    trim (t ++ u) = t ++ (u.reverse.dropWhile CodePoint.isBlank).reverse := by
  have hstays : (u.reverse.dropWhile CodePoint.isBlank).isEmpty = false := by
    obtain ⟨c, hc, hblank⟩ := hu
    rw [List.isEmpty_eq_false_iff, ne_eq, List.dropWhile_eq_nil_iff]
    intro hall
    rw [hall c (List.mem_reverse.mpr hc)] at hblank
    cases hblank
  rw [trim, trimLeft_append hhead hne, List.reverse_append, List.dropWhile_append, hstays]
  simp

theorem trim_cons {t : Text} {blank : CodePoint} (hblank : blank.isBlank = true) :
    trim (blank :: t) = trim t := by
  rw [trim, trimLeft, List.dropWhile_cons, if_pos hblank]
  rfl

theorem mem_of_mem_trim {c : CodePoint} {t : Text} (h : c ∈ trim t) : c ∈ t := by
  rw [trim, List.mem_reverse] at h
  have hleft := (List.dropWhile_suffix _).subset h
  rw [List.mem_reverse] at hleft
  exact (List.dropWhile_suffix _).subset hleft

/-- A text that ends with one blank too many loses that one. -/
theorem trim_append_blank {t : Text} {blank : CodePoint} (hblank : blank.isBlank = true)
    (hhead : ∀ c ∈ t.head?, c.isBlank = false) (hlast : ∀ c ∈ t.getLast?, c.isBlank = false)
    (hne : t ≠ []) : trim (t ++ [blank]) = t := by
  rw [trim, trimLeft_append hhead hne, List.reverse_append, List.reverse_singleton,
    List.singleton_append, List.dropWhile_cons, if_pos hblank]
  exact dropEnd_eq_self hlast

/-- A text that starts with one blank too many loses that one. -/
theorem trim_cons_blank {t : Text} {blank : CodePoint} (hblank : blank.isBlank = true)
    (hhead : ∀ c ∈ t.head?, c.isBlank = false) (hlast : ∀ c ∈ t.getLast?, c.isBlank = false) :
    trim (blank :: t) = t := by
  rw [trim_cons hblank, trim, trimLeft, dropWhile_eq_self hhead]
  exact dropEnd_eq_self hlast

/-- A word: not empty, and without a blank. -/
def IsWord (t : Text) : Prop := t ≠ [] ∧ ∀ c ∈ t, c.isBlank = false

theorem IsWord.head {t : Text} (h : IsWord t) : ∀ c ∈ t.head?, c.isBlank = false :=
  fun c hc => h.2 c (List.mem_of_mem_head? hc)

theorem IsWord.last {t : Text} (h : IsWord t) : ∀ c ∈ t.getLast?, c.isBlank = false :=
  fun c hc => h.2 c (List.mem_of_mem_getLast? hc)

theorem words_cons_blank {c : CodePoint} (h : c.isBlank = true) (t : Text) :
    words (c :: t) = words t :=
  if_pos h

theorem words_singleton {c : CodePoint} (h : c.isBlank = false) : words [c] = [[c]] :=
  if_neg (by simp [h])

/-- A code point of a word opens a word of its own before a blank and joins the next one otherwise.
The equations that come with `words` do not say this: they match on the rest and on its words at
once. -/
theorem words_cons_cons {c : CodePoint} (h : c.isBlank = false) (d : CodePoint) (t : Text) :
    words (c :: d :: t)
      = match words (d :: t) with
        | [] => [[c]]
        | word :: rest => if d.isBlank then [c] :: word :: rest else (c :: word) :: rest := by
  show (if c.isBlank then words (d :: t) else _) = _
  rw [if_neg (by simp [h])]
  cases words (d :: t) <;> rfl

theorem words_word {w : Text} (h : IsWord w) : words w = [w] := by
  obtain ⟨hne, hw⟩ := h
  induction w with
  | nil => exact absurd rfl hne
  | cons c w ih =>
    have hc : c.isBlank = false := hw c (by simp)
    cases w with
    | nil => exact words_singleton hc
    | cons d w =>
      have hd : d.isBlank = false := hw d (by simp)
      rw [words_cons_cons hc, ih (by simp) fun e he => hw e (List.mem_cons_of_mem _ he)]
      simp [hd]

/-- A word ends at the blank after it. -/
theorem words_append {w : Text} {blank : CodePoint} (h : IsWord w) (hblank : blank.isBlank = true)
    (t : Text) : words (w ++ blank :: t) = w :: words t := by
  obtain ⟨hne, hw⟩ := h
  induction w with
  | nil => exact absurd rfl hne
  | cons c w ih =>
    have hc : c.isBlank = false := hw c (by simp)
    cases w with
    | nil =>
      rw [List.singleton_append, words_cons_cons hc, words_cons_blank hblank]
      cases words t with
      | nil => rfl
      | cons word rest => simp [hblank]
    | cons d w =>
      have hd : d.isBlank = false := hw d (by simp)
      have ih := ih (by simp) fun e he => hw e (List.mem_cons_of_mem _ he)
      rw [List.cons_append] at ih
      rw [List.cons_append, List.cons_append, words_cons_cons hc, ih]
      simp [hd]

/-- **Words with a blank between them are read one by one.** -/
theorem words_join {blank : CodePoint} (hblank : blank.isBlank = true) : ∀ {ws : List Text},
    (∀ w ∈ ws, IsWord w) → words (join [blank] ws) = ws
  | [], _ => rfl
  | [w], h => words_word (h w (by simp))
  | w :: next :: others, h => by
    rw [join, List.append_assoc, List.singleton_append, words_append (h w (by simp)) hblank,
      words_join hblank fun w' hw' => h w' (List.mem_cons_of_mem _ hw')]

/-- Joined words start as the first of them does. -/
theorem join_head {separator : Text} {ws : List Text} (h : ∀ w ∈ ws, IsWord w) :
    ∀ c ∈ (join separator ws).head?, c.isBlank = false := by
  match ws with
  | [] => simp [join]
  | [w] => exact (h w (by simp)).head
  | w :: next :: others =>
    have hw := h w (by simp)
    rw [join, List.append_assoc, List.head?_append_of_ne_nil _ hw.1]
    exact hw.head

/-- Joined words end as the last of them does. -/
theorem join_last {separator : Text} : ∀ {ws : List Text}, (∀ w ∈ ws, IsWord w) →
    ∀ c ∈ (join separator ws).getLast?, c.isBlank = false
  | [], _ => by simp [join]
  | [w], h => (h w (by simp)).last
  | w :: next :: others, h => by
    have hne : join separator (next :: others) ≠ [] := by
      cases others with
      | nil => exact (h next (by simp)).1
      | cons other others => simp [join, (h next (by simp)).1]
    rw [join, List.getLast?_append_of_ne_nil _ hne]
    exact join_last fun v hv => h v (List.mem_cons_of_mem _ hv)

theorem unixLines_cons {c : CodePoint} (h : c ≠ '\r') (t : Text) :
    unixLines (c :: t) = c :: unixLines t := by
  rw [unixLines.eq_def]
  exact if_neg h

theorem unixLines_eq_self {t : Text} (h : ('\r' : CodePoint) ∉ t) : unixLines t = t := by
  induction t with
  | nil => rfl
  | cons c t ih =>
    rw [List.mem_cons, not_or] at h
    rw [unixLines_cons (Ne.symm h.1), ih h.2]

theorem unixLines_append {t : Text} (h : ('\r' : CodePoint) ∉ t) (u : Text) :
    unixLines (t ++ u) = t ++ unixLines u := by
  induction t with
  | nil => rfl
  | cons c t ih =>
    rw [List.mem_cons, not_or] at h
    rw [List.cons_append, unixLines_cons (Ne.symm h.1), ih h.2, List.cons_append]

/-- What follows a line feed is read on its own: a carriage return before it goes with it. -/
theorem exists_unixLines_append (t u : Text) :
    ∃ t', unixLines (t ++ .ofChar '\n' :: u) = t' ++ .ofChar '\n' :: unixLines u := by
  induction t using unixLines.induct with
  | case1 => exact ⟨[], unixLines_cons (by decide) u⟩
  | case2 => exact ⟨[], rfl⟩
  | case3 rest ih =>
    obtain ⟨t', ht'⟩ := ih
    refine ⟨.ofChar '\n' :: t', ?_⟩
    show .ofChar '\n' :: unixLines (rest ++ .ofChar '\n' :: u) = _
    rw [ht', List.cons_append]
  | case4 d rest hd ih =>
    obtain ⟨t', ht'⟩ := ih
    refine ⟨.ofChar '\n' :: t', ?_⟩
    have hcons : (CodePoint.ofChar '\n' :: t') ++ CodePoint.ofChar '\n' :: unixLines u
        = .ofChar '\n' :: (t' ++ .ofChar '\n' :: unixLines u) := rfl
    rw [hcons, ← ht', unixLines.eq_def]
    exact (if_pos rfl).trans (if_neg hd)
  | case5 c t hc ih =>
    obtain ⟨t', ht'⟩ := ih
    exact ⟨c :: t', by rw [List.cons_append, unixLines_cons hc, ht', List.cons_append]⟩

end SongSheet.Text
