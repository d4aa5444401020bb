import SongSheet.Proofs.Script.Call
import SongSheet.Proofs.Text.Cut

/-!
# Texts that are no scripts

A script consists of calls of a function by its name. **A text that starts with a sign other than an
opening parenthesis holds no script** (`read_of_sign`), whatever follows: the other formats start
their sheets with such signs.

Nothing has to be known about the rest of the text, not even that it can be cut into tokens. If it
can, its first statement starts with a sign, and what starts with a sign is no name and no call of a
name. Such expressions are `Inert`; parts, calls, operators and commas after an inert expression
leave it inert.
-/

set_option autoImplicit false

namespace SongSheet.Script

/-! ## 1. Expressions that are no names -/

/-- Neither a name nor a call of a name. -/
def Inert : Expr → Prop
  | .name _ | .call (.name _) _ _ => False
  | _ => True

theorem Inert.call {e : Expr} (h : Inert e) (arguments : List Expr) (named : Bool) :
    Inert (.call e arguments named) := by
  cases e with
  | name id => exact h.elim
  | _ => trivial

theorem Inert.callArguments? {e : Expr} (h : Inert e) : callArguments? e = none := by
  unfold Script.callArguments?
  split
  · exact h.elim
  · rfl

theorem inert_apply (op : Operator) (left right : Expr) : Inert (op.apply left right) := by
  cases op with
  | sum negative => trivial
  | other => trivial

/-! ## 2. Expressions that start with a sign -/

/-- Whatever expression is read is inert. -/
def ReadsInert (answer : Option (Expr × Lexemes)) : Prop := ∀ found ∈ answer, Inert found.1

theorem readsInert_none : ReadsInert none := by
  rintro found ⟨⟩

theorem readsInert_some {e : Expr} {rest : Lexemes} (h : Inert e) :
    ReadsInert (some (e, rest)) := by
  rintro found ⟨⟩
  exact h

theorem readsInert_bind {α : Type} {first : Option α} {next : α → Option (Expr × Lexemes)}
    (h : ∀ a, first = some a → ReadsInert (next a)) : ReadsInert (first.bind next) := by
  cases first with
  | none => exact readsInert_none
  | some a => exact h a rfl

/-- Parts and calls of what is inert are inert. -/
theorem readsInert_trailers {k : Nat} {e : Expr} {ts : Lexemes} (he : Inert e) :
    ReadsInert (trailers k e ts) := by
  induction k generalizing e ts with
  | zero => exact readsInert_none
  | succ k ih =>
    have hpart : Inert .part := trivial
    rw [trailers]
    split
    · exact readsInert_bind fun _ _ => ih hpart
    · exact readsInert_bind fun _ _ => ih (he.call ..)
    · exact readsInert_bind fun _ _ => ih hpart
    · exact readsInert_some he

theorem readsInert_operators {k level : Nat} {e : Expr} {ts : Lexemes} (he : Inert e) :
    ReadsInert (operators k level e ts) := by
  induction k generalizing e ts with
  | zero => exact readsInert_none
  | succ k ih =>
    rw [operators]
    split
    · exact readsInert_some he
    · split
      · exact readsInert_some he
      · exact readsInert_bind fun _ _ => ih (inert_apply ..)

theorem readsInert_comprehension {k : Nat} {item : Expr} {close : String} {ts : Lexemes} :
    ReadsInert (comprehension k item close ts) := by
  cases k with
  | zero => exact readsInert_none
  | succ k =>
    rw [comprehension.eq_def]
    dsimp only
    split
    · exact readsInert_none
    · exact readsInert_bind fun _ _ => readsInert_bind fun _ _ =>
        readsInert_some (e := .other) trivial

section Signs

variable {left : Nat} {s : String} {ts : Lexemes}

theorem readsInert_braces {k : Nat} {ts : Lexemes} : ReadsInert (braces k ts) := by
  cases k with
  | zero => exact readsInert_none
  | succ k =>
    rw [braces]
    split
    · exact readsInert_some trivial
    · exact readsInert_bind fun _ _ => readsInert_some trivial
    · refine readsInert_bind fun found _ => ?_
      dsimp only
      split
      · exact readsInert_none
      · exact readsInert_none
      · refine readsInert_bind fun value _ => ?_
        split
        · exact readsInert_comprehension
        · exact readsInert_bind fun _ _ => readsInert_some trivial
      · split
        · exact readsInert_comprehension
        · exact readsInert_bind fun _ _ => readsInert_some trivial

/-- Only a name or a parenthesis can begin what is a name in the end. -/
theorem readsInert_atom (k : Nat) (hs : s ≠ "(") : ReadsInert (atom k (⟨.sign s, left⟩ :: ts)) := by
  cases k with
  | zero => exact readsInert_none
  | succ k =>
    rw [atom]
    simp only [if_neg hs]
    split
    · exact readsInert_some trivial
    split
    · split
      · exact readsInert_some trivial
      · refine readsInert_bind fun item _ => ?_
        split
        · exact readsInert_comprehension
        · exact readsInert_bind fun _ _ => readsInert_some trivial
    split
    · exact readsInert_braces
    · exact readsInert_none

theorem readsInert_primary (k : Nat) (hs : s ≠ "(") :
    ReadsInert (primary k (⟨.sign s, left⟩ :: ts)) := by
  cases k with
  | zero => exact readsInert_none
  | succ k =>
    rw [primary]
    exact readsInert_bind fun found hfound =>
      readsInert_trailers (readsInert_atom k hs found hfound)

theorem readsInert_operand (k : Nat) (hs : s ≠ "(") :
    ReadsInert (operand k (⟨.sign s, left⟩ :: ts)) := by
  cases k with
  | zero => exact readsInert_none
  | succ k =>
    rw [operand]
    split
    · exact readsInert_bind fun _ _ => readsInert_some trivial
    · exact readsInert_bind fun _ _ => readsInert_some trivial
    · exact readsInert_bind fun _ _ => readsInert_some trivial
    · refine readsInert_bind fun found hfound => ?_
      dsimp only
      split
      · exact readsInert_some (readsInert_primary k hs found hfound)
      · exact readsInert_bind fun _ _ => readsInert_some trivial

theorem readsInert_operation (k level : Nat) (hs : s ≠ "(") :
    ReadsInert (operation k level (⟨.sign s, left⟩ :: ts)) := by
  cases k with
  | zero => exact readsInert_none
  | succ k =>
    rw [operation]
    exact readsInert_bind fun found hfound =>
      readsInert_operators (readsInert_operand k hs found hfound)

theorem readsInert_expression (k : Nat) (hs : s ≠ "(") :
    ReadsInert (expression k (⟨.sign s, left⟩ :: ts)) := by
  cases k with
  | zero => exact readsInert_none
  | succ k =>
    rw [expression]
    refine readsInert_bind fun found hfound => ?_
    dsimp only
    split
    · exact readsInert_some (readsInert_operation k 1 hs found hfound)
    · exact readsInert_bind fun _ _ => readsInert_bind fun _ _ => readsInert_bind fun _ _ =>
        readsInert_some trivial

theorem readsInert_starExpression (k : Nat) (hs : s ≠ "(") :
    ReadsInert (starExpression k (⟨.sign s, left⟩ :: ts)) := by
  cases k with
  | zero => exact readsInert_none
  | succ k =>
    rw [starExpression]
    split
    · exact readsInert_bind fun _ _ => readsInert_some trivial
    · exact readsInert_expression k hs

theorem readsInert_expressions (k : Nat) (hs : s ≠ "(") :
    ReadsInert (expressions k (⟨.sign s, left⟩ :: ts)) := by
  cases k with
  | zero => exact readsInert_none
  | succ k =>
    rw [expressions]
    refine readsInert_bind fun found hfound => ?_
    dsimp only
    split
    · exact readsInert_bind fun _ _ => readsInert_some trivial
    · exact readsInert_some (readsInert_starExpression k hs found hfound)

/-! ## 3. Statements that start with a sign -/

/-- A statement that starts with a sign is no call. -/
theorem callArguments?_expressionStatement {k : Nat} {found : Option Expr} {rest : Lexemes}
    (hs : s ≠ "(") (h : expressionStatement k (⟨.sign s, left⟩ :: ts) = some (found, rest)) :
    found.bind callArguments? = none := by
  rw [expressionStatement] at h
  obtain ⟨⟨e, after⟩, hexpressions, h⟩ := Option.bind_eq_some_iff.mp h
  have he : Inert e := readsInert_expressions k hs _ hexpressions
  dsimp only at h
  split at h
  · obtain ⟨_, _, h⟩ := Option.map_eq_some_iff.mp h
    cases h
    rfl
  · obtain ⟨_, _, h⟩ := Option.map_eq_some_iff.mp h
    cases h
    rfl
  · split at h
    · obtain ⟨_, _, h⟩ := Option.map_eq_some_iff.mp h
      cases h
      rfl
    · cases h
  · cases h
    exact he.callArguments?

/-- The first of the statements on a line that starts with a sign is no call. -/
theorem exists_lineStatements {k : Nat} {statements : List Statement} {rest : Lexemes}
    (hs : s ≠ "(") (h : lineStatements k (⟨.sign s, left⟩ :: ts) = some (statements, rest)) :
    ∃ first more, statements = first :: more ∧ first.expr.bind callArguments? = none := by
  cases k with
  | zero => cases h
  | succ k =>
    rw [lineStatements] at h
    obtain ⟨⟨found, after⟩, hfound, h⟩ := Option.bind_eq_some_iff.mp h
    have hcall := callArguments?_expressionStatement hs hfound
    dsimp only at h
    split at h
    · obtain ⟨_, _, h⟩ := Option.bind_eq_some_iff.mp h
      cases h
      exact ⟨⟨found, left⟩, [], rfl, hcall⟩
    · split at h
      · cases h
        exact ⟨⟨found, left⟩, [], rfl, hcall⟩
      · obtain ⟨⟨more, _⟩, _, h⟩ := Option.bind_eq_some_iff.mp h
        cases h
        exact ⟨⟨found, left⟩, more, rfl, hcall⟩

theorem exists_statementsFrom {k : Nat} {statements : List Statement} (hs : s ≠ "(")
    (hat : s ≠ "@") (h : statementsFrom k (⟨.sign s, left⟩ :: ts) = some statements) :
    ∃ first more, statements = first :: more ∧ first.expr.bind callArguments? = none := by
  cases k with
  | zero => cases h
  | succ k =>
    rw [statementsFrom] at h
    obtain ⟨⟨line, rest⟩, hline, h⟩ := Option.bind_eq_some_iff.mp h
    obtain ⟨later, _, h⟩ := Option.bind_eq_some_iff.mp h
    cases h
    have hlines : ∃ k, lineStatements k (⟨.sign s, left⟩ :: ts) = some (line, rest) := by
      cases k with
      | zero => cases hline
      | succ k =>
        rw [statement.eq_def] at hline
        dsimp only at hline
        split at hline
        case h_1 heq => cases heq
        case h_2 heq => exact absurd (Token.sign.inj heq) hat
        case h_3 => exact ⟨k, hline⟩
    obtain ⟨k, hlines⟩ := hlines
    obtain ⟨first, more, rfl, hcall⟩ := exists_lineStatements hs hlines
    exact ⟨first, more ++ later, rfl, hcall⟩

end Signs

/-! ## 4. The whole text -/

/-- Signs that a text may start with and that no call starts with. -/
def openingSigns : Text := "[</"

theorem sign?_head {c : CodePoint} {t rest : Text} {s : String}
    (h : sign? (c :: t) = some (s, rest)) : (s : Text).head? = some c := by
  obtain ⟨s', hs', h⟩ := List.exists_of_findSome?_eq_some h
  obtain ⟨_, hafter, h⟩ := Option.map_eq_some_iff.mp h
  cases h
  have hsigns : ∀ s ∈ signs, (s : Text) ≠ [] := by decide
  obtain ⟨d, v, hd⟩ := List.exists_cons_of_ne_nil (hsigns s hs')
  have ht := Text.after?_eq_some_iff.mp hafter
  rw [hd] at ht ⊢
  cases ht
  rfl

/-- The first token of a text that starts with such a sign. -/
theorem exists_lexemes_sign {c : CodePoint} {t : Text} {ts : Lexemes} (hc : c ∈ openingSigns)
    (h : lexemes (c :: t) = some ts) :
    ∃ s left rest, ts = ⟨.sign s, left⟩ :: rest ∧ s ≠ "(" ∧ s ≠ "@" := by
  have hblank : ∀ c ∈ openingSigns, isLineBlank c = false := by decide
  have hpart : ∀ c ∈ openingSigns, isNamePart c = false := by decide
  have hdigit : ∀ c ∈ openingSigns, c.between '0' '9' = false := by decide
  have hne : ∀ d ∉ openingSigns, c ≠ d := by
    rintro d hd rfl
    exact hd hc
  rw [lexemes, lexemesFrom_start (hblank c hc) (hne _ (by decide)) (hne _ (by decide))
    (hne _ (by decide)), List.length_cons, Nat.mul_succ, lexemesFrom] at h
  simp only [List.dropWhile_cons, hblank c hc, Bool.false_eq_true, if_false] at h
  rw [if_neg (hne _ (by decide)), if_neg (hne _ (by decide)), if_neg (hne _ (by decide)),
    if_neg (by simp [hdigit c hc, hne (.ofChar '.') (by decide)]),
    if_neg (not_or.mpr ⟨hne _ (by decide), hne _ (by decide)⟩),
    if_neg (by simp [hpart c hc])] at h
  split at h
  · cases h
  case h_2 s rest hsign =>
    have hhead := sign?_head hsign
    split at h
    · cases h
    · obtain ⟨ts, _, h⟩ := Option.map_eq_some_iff.mp h
      cases h
      refine ⟨s, _, ts, rfl, ?_, ?_⟩
      · rintro rfl
        exact hne (.ofChar '(') (by decide) (Option.some.inj hhead).symm
      · rintro rfl
        exact hne (.ofChar '@') (by decide) (Option.some.inj hhead).symm

theorem exists_closedLines_cons {c : CodePoint} (hc : c ≠ .ofChar '\r') (t : Text) :
    ∃ t', closedLines (c :: t) = c :: t' := by
  rw [closedLines, Text.unixLines_cons hc]
  split_ifs
  · exact ⟨_, rfl⟩
  · exact ⟨_, rfl⟩

/-- **A text that starts with such a sign is no script**, whatever follows. -/
theorem read_of_sign {c : CodePoint} (hc : c ∈ openingSigns) (t : Text) :
    ∃ e, read (c :: t) = .error e := by
  have hreturn : c ≠ .ofChar '\r' := by
    rintro rfl
    exact absurd hc (by decide)
  obtain ⟨t', ht'⟩ := exists_closedLines_cons hreturn t
  have hcalls : ∃ e, readCalls (c :: t) = .error e := by
    rw [readCalls]
    split
    · exact ⟨_, rfl⟩
    split
    · exact ⟨_, rfl⟩
    dsimp only
    rw [ht']
    split
    · exact ⟨_, rfl⟩
    case h_2 statements hstatements =>
      obtain ⟨ts, hlexemes, hstatements⟩ := Option.bind_eq_some_iff.mp hstatements
      obtain ⟨s, left, rest, rfl, hparenthesis, hat⟩ := exists_lexemes_sign hc hlexemes
      obtain ⟨first, more, rfl, hfirst⟩ := exists_statementsFrom hparenthesis hat hstatements
      rw [List.mapM_cons]
      simp only [hfirst]
      exact ⟨_, rfl⟩
  obtain ⟨e, he⟩ := hcalls
  rw [read, he]
  exact ⟨e, rfl⟩

end SongSheet.Script
