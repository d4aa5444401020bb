import SongSheet.Proofs.LetterSheet.Beats
import SongSheet.Proofs.Strict.Operation

/-!
# The strict reader of letter sheets

The header is cut where its mark ends, its words are taken by their place, and the key lines are
gone through with a cursor. **The strict reader does what the reader does**
(`LetterSheet.readStrictly_eq`): a mark that is there ends, five empty words more than there are
make every place good, and the cursor looks at a column only where there is one.
-/

set_option autoImplicit false

namespace SongSheet.LetterSheet

open Strict

/-! ## 1. The header -/

/-- The header line after its mark, and the key lines. -/
def splitHeaderStrictly (t : Text) : Except Fault (Text × Text) :=
  let t := Text.unixLines (Text.trim t)
  if t.isEmpty then refuse .letterEmpty
  else if !Text.contains mark t then refuse .letterMark
  else do
    let finish ← placeOf t (.ofChar '>')
    match Text.cut? "\n" (t.drop (finish + 1)) with
    | none => refuse .letterHeader
    | some (header, keyLines) => .ok (Text.trim header, keyLines)

/-- A text is cut where a code point of it first stands. -/
theorem cut?_of_mem {c : CodePoint} {t : Text} (h : c ∈ t) :
    ∃ before, Text.cut? [c] t = some (before, t.drop (t.idxOf c + 1)) := by
  induction t with
  | nil => cases h
  | cons d t ih =>
    by_cases hd : d = c
    · subst hd
      refine ⟨[], ?_⟩
      rw [List.idxOf_cons_self]
      exact Text.cut?_append_self [d] t
    · obtain ⟨before, hcut⟩ := ih ((List.mem_cons.mp h).resolve_left fun heq => hd heq.symm)
      have hapart : ¬[c] <+: d :: t := by
        rintro ⟨rest, hrest⟩
        exact hd (List.cons.inj hrest).1.symm
      refine ⟨d :: before, ?_⟩
      rw [Text.cut?_cons hapart, hcut, List.idxOf_cons_ne _ hd]
      rfl

theorem splitHeaderStrictly_eq (t : Text) :
    splitHeaderStrictly t = refusing (splitHeader t) := by
  rw [splitHeaderStrictly, splitHeader]
  generalize Text.unixLines (Text.trim t) = u
  split_ifs with hempty hmark
  · rfl
  · rfl
  · -- The mark is there, and it ends in the code point that is looked for.
    have hends : CodePoint.ofChar '>' ∈ u := by
      have hthere : Text.contains mark u = true := by simpa using hmark
      obtain ⟨⟨before, rest⟩, hcut⟩ := Option.isSome_iff_exists.mp hthere
      rw [Text.eq_append_of_cut? hcut]
      exact List.mem_append_left _ (List.mem_append_right _ (by decide))
    obtain ⟨before, hcut⟩ := cut?_of_mem hends
    have hcut' : Text.cut? ">" u = some (before, u.drop (u.idxOf (.ofChar '>') + 1)) := hcut
    rw [placeOf_of_mem hends, ok_bind, hcut']
    dsimp only
    cases Text.cut? "\n" (u.drop (u.idxOf (.ofChar '>') + 1)) <;> rfl

/-- The number that a text starts with, if it starts with one. -/
def leadingIntStrictly (t : Text) : Except Fault (Option Int) :=
  match Text.trimLeft t with
  | [] => .ok none
  | c :: rest =>
    let signed := c = '+' ∨ c = '-'
    let digits := (Text.takeDigits (if signed then rest else c :: rest)).1
    if digits.isEmpty then .ok none
    else do
      let n ← number digits
      return some (if c = '-' then -(n : Int) else (n : Int))

theorem leadingIntStrictly_eq (t : Text) :
    leadingIntStrictly t = .ok (Text.leadingInt? t) := by
  rw [leadingIntStrictly, Text.leadingInt?]
  cases Text.trimLeft t with
  | nil => rfl
  | cons c rest =>
    dsimp only
    by_cases hempty : (Text.takeDigits (if c = .ofChar '+' ∨ c = .ofChar '-' then rest
        else c :: rest)).1.isEmpty = true
    · rw [if_pos hempty, if_pos hempty]
    · rw [if_neg hempty, if_neg hempty, number_takeDigits hempty, ok_bind]
      rfl

/-- The score that a header announces, its words taken from as many empty ones as are asked for. -/
def readHeaderStrictly (header fileName : Text) : Except Fault Score := do
  let words := Text.words header ++ List.replicate 5 []
  let author ← item words 3
  let transcriber ← item words 4
  let level ← leadingIntStrictly (← item words 1)
  let keyNote ← refusing (Score.checkPitchLevel (Json.ofInt? level))
  let tempo ← leadingIntStrictly (← item words 0)
  let bpm ← refusing (Score.checkBpm (Json.ofInt? tempo))
  return {
    name := .string (FileName.stem [] fileName)
    author := .string author
    transcriber := .string transcriber
    keyNote
    bpm }

/-- With five empty words behind them, words have a fifth. -/
theorem item_padded (words : List Text) {index : Nat} (h : index < 5) :
    item (words ++ List.replicate 5 []) index = .ok (words.getD index []) := by
  have hlt : index < (words ++ List.replicate 5 []).length := by
    rw [List.length_append, List.length_replicate]
    omega
  rw [item_getD hlt []]
  congr 1
  rw [List.getD_eq_getElem?_getD, List.getD_eq_getElem?_getD, List.getElem?_append]
  split
  case isTrue => rfl
  case isFalse hover =>
    rw [List.getElem?_replicate, if_pos (by omega), List.getElem?_eq_none (by omega)]
    rfl

theorem readHeaderStrictly_eq (header fileName : Text) :
    readHeaderStrictly header fileName = refusing (readHeader header fileName) := by
  rw [readHeaderStrictly, readHeader, refusing_bind]
  simp only [item_padded _ (by decide : 3 < 5), item_padded _ (by decide : 4 < 5),
    item_padded _ (by decide : 1 < 5), item_padded _ (by decide : 0 < 5), leadingIntStrictly_eq,
    ok_bind]
  refine congrArg _ (funext fun keyNote => ?_)
  rw [refusing_bind]
  rfl

/-! ## 2. The key lines -/

/-- The letters of the rows. -/
def rows : Text := "ABC"

/-- The marks of a text from a place on. -/
def marksStrictly (t : Text) (i : Nat) : Except Fault (List Mark) :=
  if h : i < t.length then do
    let c ← item t i
    if c = '.' then (marksStrictly t (i + 1)).map (.dot :: ·)
    else if c ∈ rows then
      let row ← placeOf rows c
      if t.length ≤ i + 1 then refuse (fault t (t.drop i))
      else
        let d ← item t (i + 1)
        if !d.between '1' '5' then refuse (fault t (t.drop (i + 1)))
        else
          let column ← number [d]
          let pitch ← pitchOfDegree ((row * columns + column : Nat) - 1)
          (marksStrictly t (i + 2)).map (.key pitch :: ·)
    else if c.isBlank then (marksStrictly t (i + 1)).map (.blank :: ·)
    else refuse (fault t (t.drop i))
  else .ok []
termination_by t.length - i

/-- The number of a row is its place among the letters. -/
theorem row?_eq (c : CodePoint) : row? c = if c ∈ rows then some (rows.idxOf c) else none := by
  by_cases hrow : c.between 'A' 'C' = true
  · obtain ⟨n, hn⟩ := c
    simp only [CodePoint.between, Bool.and_eq_true, decide_eq_true_eq] at hrow
    obtain ⟨hlow, hhigh⟩ : 65 ≤ n ∧ n ≤ 67 := hrow
    have hletters : n = 65 ∨ n = 66 ∨ n = 67 := by omega
    rcases hletters with rfl | rfl | rfl <;> rfl
  · have hother : c ∉ rows := by
      intro hc
      have hletters : c = .ofChar 'A' ∨ c = .ofChar 'B' ∨ c = .ofChar 'C' := by
        simpa [rows, Text.ofString] using hc
      rcases hletters with rfl | rfl | rfl <;> exact hrow rfl
    rw [row?, if_neg hrow, if_neg hother]

/-- The number of a column is one less than what its digit says. -/
theorem column_of_between {d : CodePoint} (h : d.between '1' '5' = true) :
    ∃ n : Nat, number [d] = .ok (n + 1) ∧ column? d = some n := by
  have hlow : '1'.toNat = 49 := rfl
  have hhigh : '5'.toNat = 53 := rfl
  have hrange := h
  simp only [CodePoint.between, Bool.and_eq_true, decide_eq_true_eq] at hrange
  have hdigit : d.between '0' '9' = true := by
    have hzero : '0'.toNat = 48 := rfl
    have hnine : '9'.toNat = 57 := rfl
    simp only [CodePoint.between, Bool.and_eq_true, decide_eq_true_eq]
    omega
  refine ⟨d.val - 49, ?_, if_pos h⟩
  rw [number_of_between hdigit]
  congr 1
  omega

/-- **The cursor reads what is still to come.** -/
theorem marksStrictly_eq (t : Text) (i : Nat) :
    marksStrictly t i = refusing ((marks (t.drop i)).mapError (fault t)) := by
  rw [marksStrictly]
  split
  case isFalse hend =>
    rw [List.drop_eq_nil_of_le (by omega)]
    rfl
  case isTrue hlt =>
    have hone := marksStrictly_eq t (i + 1)
    rw [item_of_lt hlt, ok_bind, List.drop_eq_getElem_cons hlt, marks.eq_def]
    generalize t[i] = c
    dsimp only
    by_cases hdot : c = .ofChar '.'
    · rw [if_pos hdot, if_pos hdot, hone]
      cases marks (t.drop (i + 1)) <;> rfl
    rw [if_neg hdot, if_neg hdot, row?_eq]
    by_cases hrow : c ∈ rows
    · -- A row and its column are read at once, so the text must not end between them.
      rw [if_pos hrow, if_pos hrow, placeOf_of_mem hrow, ok_bind]
      dsimp only
      by_cases hlast : t.length ≤ i + 1
      · rw [if_pos hlast, List.drop_eq_nil_of_le hlast]
        rfl
      · have hnext : i + 1 < t.length := by omega
        rw [if_neg hlast, item_of_lt hnext, ok_bind, List.drop_eq_getElem_cons hnext]
        generalize t[i + 1] = d
        by_cases hcolumn : d.between '1' '5' = true
        · obtain ⟨n, hnumber, hn⟩ := column_of_between hcolumn
          have htwo := marksStrictly_eq t (i + 2)
          have hpitch : (((rows.idxOf c * columns + (n + 1) : Nat) : Int) - 1)
              = (rows.idxOf c * columns + n : Nat) := by omega
          rw [hcolumn, if_neg (by decide), hnumber, ok_bind, hpitch, pitchOfDegree_eq, ok_bind,
            htwo]
          dsimp only
          rw [hn]
          dsimp only
          cases marks (t.drop (i + 2)) <;> rfl
        · have hnone : column? d = none := if_neg hcolumn
          rw [eq_false_of_ne_true hcolumn, if_pos Bool.not_false]
          dsimp only
          rw [hnone]
          rfl
    · rw [if_neg hrow, if_neg hrow]
      dsimp only
      by_cases hblank : c.isBlank = true
      · rw [if_pos hblank, if_pos hblank, hone]
        cases marks (t.drop (i + 1)) <;> rfl
      · rw [if_neg hblank, if_neg hblank]
        rfl
termination_by t.length - i

/-- The score of a letter sheet, step by step. -/
def readStrictly (fileName : Option Text) (t : Text) : Except Fault Score := do
  let (header, keyLines) ← splitHeaderStrictly t
  let fileName : Text :=
    match fileName with
    | none | some [] => "Unknown"
    | some name => name
  let score ← readHeaderStrictly header fileName
  let ms ← marksStrictly keyLines 0
  return { score with beats := beats (gather ms) }

/-- **The strict reader of letter sheets does what the reader does.** -/
theorem readStrictly_eq (fileName : Option Text) (t : Text) :
    readStrictly fileName t = refusing (read fileName t) := by
  have hrest : ∀ name header keyLines : Text, (do
      let score ← readHeaderStrictly header name
      let ms ← marksStrictly keyLines 0
      return { score with beats := beats (gather ms) })
      = refusing (do
        let score ← readHeader header name
        return { score with beats := ← readKeys keyLines }) := by
    intro name header keyLines
    rw [readHeaderStrictly_eq, refusing_bind]
    refine congrArg _ (funext fun score => ?_)
    rw [marksStrictly_eq, List.drop_zero, readKeys]
    cases marks keyLines <;> rfl
  unfold readStrictly read
  rw [splitHeaderStrictly_eq, refusing_bind]
  refine congrArg _ (funext fun parts => ?_)
  rcases fileName with _ | _ | ⟨c, name⟩
  · exact hrest "Unknown" parts.1 parts.2
  · exact hrest "Unknown" parts.1 parts.2
  · exact hrest (c :: name) parts.1 parts.2

end SongSheet.LetterSheet
