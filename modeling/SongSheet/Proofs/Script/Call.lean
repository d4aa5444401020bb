import Mathlib.Data.List.TakeWhile
import SongSheet.Proofs.Script.StringLiteral
import SongSheet.Script

/-!
# The call of a written script

`Script.call` writes one line: the player's function with a name, a content and a version. Reading
it goes through everything that could read any script, the cutting into tokens and the grammar of
expressions, so what follows is the one way through all that which a call takes. **The reader finds
the arguments that were written** (`readCalls_call`), whatever the two texts hold, surrogates apart.

The tokens are read one at a time: each lemma says that a token at the front of a text is cut off
and the rest is left as it is. The grammar is read from the inside: an atom that nothing goes on
with is an operand, an expression, an argument.
-/

set_option autoImplicit false

namespace SongSheet.Script

open Json (stringChar quote)

/-! ## 1. Tokens -/

section Tokens

variable {k : Nat} {opened : List String} {indents : List (Nat × Nat)}

theorem ne_of_isNamePart {c d : CodePoint} (h : isNamePart c = true) (hd : isNamePart d = false) :
    c ≠ d := by
  rintro rfl
  rw [h] at hd
  cases hd

theorem isLineBlank_of_isNamePart {c : CodePoint} (h : isNamePart c = true) :
    isLineBlank c = false := by
  have hspace : c ≠ .ofChar ' ' := ne_of_isNamePart h (by decide)
  have htab : c ≠ .ofChar '\t' := ne_of_isNamePart h (by decide)
  have hfeed : c.val ≠ 0x0C := by
    intro hval
    have hne : c ≠ .ofNat 0x0C := ne_of_isNamePart h (by decide)
    rw [← hval, Json.ofNat_val] at hne
    exact hne rfl
  simp [isLineBlank, hspace, htab, hfeed]

/-- A word that is a name is a token, as far as it goes. -/
theorem lexemesFrom_word {w r : Text} (hne : w ≠ []) (hparts : ∀ d ∈ w, isNamePart d = true)
    (hr : ∀ d ∈ r.head?, isNamePart d = false) (hdigit : ∀ d ∈ w.head?, d.between '0' '9' = false)
    (hform : stringForm? w = none) (hname : isIdentifier w = true) :
    lexemesFrom (k + 1) false opened indents (w ++ r)
      = (lexemesFrom k false opened indents r).map (⟨.name w, (w ++ r).length⟩ :: ·) := by
  obtain ⟨c, v, rfl⟩ := List.exists_cons_of_ne_nil hne
  have hc := hparts c (by simp)
  have hpoint : c ≠ .ofChar '.' := ne_of_isNamePart hc (by decide)
  have hspan : (c :: (v ++ r)).span isNamePart = (c :: v, r) := by
    rw [← List.cons_append, List.span_eq_takeWhile_dropWhile,
      List.takeWhile_append_of_pos hparts, List.dropWhile_append_of_pos hparts]
    cases r with
    | nil => simp
    | cons d r => simp [hr d (by simp)]
  rw [List.cons_append, lexemesFrom]
  simp only [List.dropWhile_cons, isLineBlank_of_isNamePart hc, Bool.false_eq_true, if_false]
  -- The other kinds of tokens start with code points that no name has.
  rw [if_neg (ne_of_isNamePart hc (by decide)), if_neg (ne_of_isNamePart hc (by decide)),
    if_neg (ne_of_isNamePart hc (by decide)), if_neg (by simp [hdigit c (by simp), hpoint]),
    if_neg (not_or.mpr ⟨ne_of_isNamePart hc (by decide), ne_of_isNamePart hc (by decide)⟩),
    if_pos hc, hspan]
  simp only [hform, hname, if_true]

/-- A line that starts neither with a blank nor with a backslash is not indented, and has tokens
unless it is empty or a comment. -/
theorem lexemesFrom_start {c : CodePoint} (hblank : isLineBlank c = false)
    (hslash : c ≠ .ofChar '\\') (hend : c ≠ .ofChar '\n') (hcomment : c ≠ .ofChar '#') (t : Text) :
    lexemesFrom (k + 1) true [] [] (c :: t) = lexemesFrom k false [] [] (c :: t) := by
  simp only [isLineBlank, Bool.or_eq_false_iff, decide_eq_false_iff_not] at hblank
  obtain ⟨⟨hspace, htab⟩, hfeed⟩ := hblank
  have hwidth : indentation 0 0 0 (c :: t) = ((0, 0), c :: t) := by
    rw [indentation.eq_def]
    simp only [hspace, htab, hfeed, hslash, if_false, if_true, false_and]
    split <;> rfl
  rw [lexemesFrom]
  simp only [hwidth]
  rw [if_neg hend, if_neg hcomment]
  simp [indentTokens]

/-- A JSON string is a token. -/
theorem lexemesFrom_quote (t : Text) {r : Text} (hr : r.head? ≠ some (.ofChar '"')) :
    lexemesFrom (k + 1) false opened indents (quote false t ++ r)
      = (lexemesFrom k false opened indents r).map
        (⟨.string ⟨false, false, false, t.flatMap (stringChar false)⟩,
          (quote false t ++ r).length⟩ :: ·) := by
  have hcons : quote false t ++ r
      = .ofChar '"' :: (t.flatMap (stringChar false) ++ .ofChar '"' :: r) := by
    rw [quote, Text.enclose, List.append_assoc, List.cons_append, List.singleton_append]
  rw [hcons]
  show (stringRest? (.ofChar '"') (t.flatMap (stringChar false) ++ .ofChar '"' :: r)).bind _ = _
  rw [stringRest?_quote t hr]
  rfl

theorem lexemesFrom_blank (r : Text) :
    lexemesFrom (k + 1) false opened indents (.ofChar ' ' :: r)
      = lexemesFrom (k + 1) false opened indents r := rfl

theorem lexemesFrom_comma (r : Text) :
    lexemesFrom (k + 1) false opened indents (.ofChar ',' :: r)
      = (lexemesFrom k false opened indents r).map (⟨.sign ",", r.length + 1⟩ :: ·) := rfl

theorem lexemesFrom_open (r : Text) (h : opened.length < 200) :
    lexemesFrom (k + 1) false opened indents (.ofChar '(' :: r)
      = (lexemesFrom k false (")" :: opened) indents r).map (⟨.sign "(", r.length + 1⟩ :: ·) := by
  have hopen : afterSign? opened "(" = some (")" :: opened) := if_pos h
  have hstart : (CodePoint.ofChar '(' :: r).dropWhile isLineBlank = .ofChar '(' :: r := rfl
  have hsign : sign? (.ofChar '(' :: r) = some ("(", r) := rfl
  rw [lexemesFrom]
  simp only [hstart]
  rw [if_neg (by decide), if_neg (by decide), if_neg (by decide),
    if_neg (fun hdigit => by cases hdigit), if_neg (by decide), if_neg (by decide)]
  simp only [hsign, hopen]
  rfl

theorem lexemesFrom_close (r : Text) :
    lexemesFrom (k + 1) false (")" :: opened) indents (.ofChar ')' :: r)
      = (lexemesFrom k false opened indents r).map (⟨.sign ")", r.length + 1⟩ :: ·) := rfl

/-- The version is a number, as a bracket ends it. -/
theorem number?_version (r : Text) :
    number? (.ofChar '2' :: .ofChar ')' :: r) = some (.int 2, .ofChar ')' :: r) := by
  have hstop : moreDigits (·.between '0' '9') (.ofChar ')' :: r) = ([], .ofChar ')' :: r) := by
    rw [moreDigits.eq_def]
    rfl
  have hdigits :
      digitPart (.ofChar '2' :: .ofChar ')' :: r) = ([.ofChar '2'], .ofChar ')' :: r) := by
    show moreDigits (·.between '0' '9') (.ofChar '2' :: .ofChar ')' :: r) = _
    rw [moreDigits.eq_def]
    show ((fun p : Text × Text => (.ofChar '2' :: p.1, p.2))
      (moreDigits (·.between '0' '9') (.ofChar ')' :: r))) = _
    rw [hstop]
  have hdecimal : decimal? (.ofChar '2' :: .ofChar ')' :: r) = some (.int 2, .ofChar ')' :: r) := by
    rw [decimal?, hdigits]
    rfl
  show (decimal? (.ofChar '2' :: .ofChar ')' :: r)).filter _ = _
  rw [hdecimal]
  rfl

theorem lexemesFrom_version (r : Text) :
    lexemesFrom (k + 1) false opened indents (.ofChar '2' :: .ofChar ')' :: r)
      = (lexemesFrom k false opened indents (.ofChar ')' :: r)).map
        (⟨.int 2, r.length + 2⟩ :: ·) := by
  show (number? (.ofChar '2' :: .ofChar ')' :: r)).bind _ = _
  rw [number?_version]
  rfl

/-- The last line of a script ends it. -/
theorem lexemesFrom_lineEnd :
    lexemesFrom (k + 2) false [] [] [.ofChar '\n'] = some [⟨.newline, 1⟩] := rfl

theorem lexemesFrom_functionName (r : Text) :
    lexemesFrom (k + 1) false opened indents (functionName ++ .ofChar '(' :: r)
      = (lexemesFrom k false opened indents (.ofChar '(' :: r)).map
        (⟨.name functionName, (functionName ++ .ofChar '(' :: r).length⟩ :: ·) := by
  refine lexemesFrom_word (by decide) (by decide) ?_ (by decide) (by decide) (by decide)
  intro d hd
  cases hd
  decide

theorem lexemesFrom_functionName_start (r : Text) :
    lexemesFrom (k + 1) true [] [] (functionName ++ r)
      = lexemesFrom k false [] [] (functionName ++ r) :=
  lexemesFrom_start (c := .ofChar 'p') (by decide) (by decide) (by decide) (by decide)
    (functionName.tail ++ r)

end Tokens

/-! ## 2. The grammar -/

section Grammar

variable {k : Nat} {e : Expr} {ts u rest : Lexemes}

/-- No word and no sign stands here that an expression could begin with. -/
structure StartsOperand (ts : Lexemes) : Prop where
  sign : ∀ s, Script.sign s ts = none
  lambda : word "lambda" ts = none
  not : word "not" ts = none
  await : word "await" ts = none

/-- An argument goes on no further: there is its comma, its bracket, or the end of the line. -/
structure EndsArgument (ts : Lexemes) : Prop where
  word : ∀ w, Script.word w ts = none
  sign : ∀ s, s ≠ "," → s ≠ ")" → Script.sign s ts = none
  operator? : Script.operator? ts = none
  strings : Script.strings ts = ([], ts)

theorem startsOperand_string (s : StringToken) (left : Nat) (ts : Lexemes) :
    StartsOperand (⟨.string s, left⟩ :: ts) :=
  ⟨fun _ => rfl, rfl, rfl, rfl⟩

theorem startsOperand_int (n left : Nat) (ts : Lexemes) :
    StartsOperand (⟨.int n, left⟩ :: ts) :=
  ⟨fun _ => rfl, rfl, rfl, rfl⟩

theorem startsOperand_functionName (left : Nat) (ts : Lexemes) :
    StartsOperand (⟨.name functionName, left⟩ :: ts) :=
  ⟨fun _ => rfl, rfl, rfl, rfl⟩

theorem endsArgument_comma (left : Nat) (ts : Lexemes) :
    EndsArgument (⟨.sign ",", left⟩ :: ts) where
  word _ := rfl
  sign _ h _ := if_neg h
  operator? := rfl
  strings := rfl

theorem endsArgument_close (left : Nat) (ts : Lexemes) :
    EndsArgument (⟨.sign ")", left⟩ :: ts) where
  word _ := rfl
  sign _ _ h := if_neg h
  operator? := rfl
  strings := rfl

theorem endsArgument_newline (left : Nat) (ts : Lexemes) :
    EndsArgument (⟨.newline, left⟩ :: ts) where
  word _ := rfl
  sign _ _ _ := rfl
  operator? := rfl
  strings := rfl

theorem trailers_end (h : EndsArgument ts) : trailers (k + 1) e ts = some (e, ts) := by
  rw [trailers, h.sign _ (by decide) (by decide), h.sign _ (by decide) (by decide),
    h.sign _ (by decide) (by decide)]

theorem operators_end {level : Nat} (h : EndsArgument ts) :
    operators (k + 1) level e ts = some (e, ts) := by
  rw [operators, h.operator?]

theorem primary_of_atom (hu : StartsOperand u) (h : atom k u = some (e, ts)) :
    primary (k + 1) u = trailers k e ts := by
  rw [primary, hu.await, h]
  rfl

theorem operand_of_primary (hu : StartsOperand u) (hts : EndsArgument ts)
    (h : primary k u = some (e, ts)) : operand (k + 1) u = some (e, ts) := by
  rw [operand, hu.sign, hu.sign, hu.sign, h]
  have hpower : sign "**" ts = none := hts.sign _ (by decide) (by decide)
  simp only [Option.bind_eq_bind, Option.bind_some, hpower]
  rfl

theorem operation_of_operand {level : Nat} (hu : StartsOperand u) (hts : EndsArgument ts)
    (h : operand (k + 1) u = some (e, ts)) : operation (k + 2) level u = some (e, ts) := by
  rw [operation, hu.not, h]
  exact operators_end hts

theorem expression_of_operation (hu : StartsOperand u) (hts : EndsArgument ts)
    (h : operation k 1 u = some (e, ts)) : expression (k + 1) u = some (e, ts) := by
  rw [expression, hu.lambda, h]
  simp only [Option.bind_eq_bind, Option.bind_some, hts.word]
  rfl

/-- A primary expression that nothing goes on with is an expression. -/
theorem expression_of_primary (hu : StartsOperand u) (hts : EndsArgument ts)
    (h : primary k u = some (e, ts)) : expression (k + 3) u = some (e, ts) :=
  expression_of_operation hu hts
    (operation_of_operand hu hts (operand_of_primary hu hts h))

/-- An atom that nothing goes on with is an argument. -/
theorem arguments_of_atom {stage : ArgumentStage} {more : List Expr} {named : Bool}
    (hstage : stage = .first ∨ stage = .placed) (hu : StartsOperand u)
    (hname : identifier u = none) (hts : EndsArgument ts) (hatom : atom (k + 1) u = some (e, ts))
    (hmore : moreArguments (k + 6) .placed ts = some (more, named, rest)) :
    arguments (k + 7) stage u = some (e :: more, named, rest) := by
  have hprimary : primary (k + 2) u = some (e, ts) := by
    rw [primary_of_atom hu hatom]
    exact trailers_end hts
  have hnamed : namedExpression (k + 6) u = some (e, ts) := by
    rw [namedExpression, hname]
    exact expression_of_primary hu hts hprimary
  have hclause : isClause ts = false := by
    rw [isClause, hts.word, hts.word]
    rfl
  rw [arguments, hu.sign, hu.sign, hu.sign, hname]
  simp only [Option.bind_none, if_pos hstage, hnamed, hclause, hmore, Option.bind_eq_bind,
    Option.bind_some]
  rfl

/-- A string that no other string follows is an atom. -/
theorem atom_string {body t : Text} {left : Nat} (hts : EndsArgument ts)
    (h : StringToken.value? ⟨false, false, false, body⟩ = some t) :
    atom (k + 1) (⟨.string ⟨false, false, false, body⟩, left⟩ :: ts) = some (.text t, ts) := by
  have hstrings : strings (⟨.string ⟨false, false, false, body⟩, left⟩ :: ts)
      = ([⟨false, false, false, body⟩], ts) := by
    rw [strings, hts.strings]
  have hjoin : joinStrings [⟨false, false, false, body⟩] = some (.text t) := by
    simp [joinStrings, h]
  rw [atom]
  simp only [hstrings, hjoin, Option.bind_eq_bind, Option.bind_some]
  rfl

/-- Behind the comma between two arguments the next one is read. -/
theorem moreArguments_comma {stage : ArgumentStage} {left : Nat} :
    moreArguments (k + 1) stage (⟨.sign ",", left⟩ :: ts) = arguments k stage ts := rfl

/-- An operand with arguments behind it is a call. -/
theorem trailers_call {arguments : List Expr} {named : Bool} {left : Nat}
    (h : Script.arguments (k + 1) .first ts = some (arguments, named, rest))
    (hrest : EndsArgument rest) :
    trailers (k + 2) e (⟨.sign "(", left⟩ :: ts) = some (.call e arguments named, rest) := by
  rw [trailers]
  show (Script.arguments (k + 1) .first ts).bind (fun answer => _) = _
  rw [h]
  exact trailers_end hrest

/-- An expression that is a line is a statement. -/
theorem lineStatements_expression {t : Lexeme} {left : Nat} {rest : Lexemes}
    (hkeyword : keywordStatement? (k + 3) (t :: ts) = none) (hstar : sign "*" (t :: ts) = none)
    (h : expression (k + 1) (t :: ts) = some (e, ⟨.newline, left⟩ :: rest)) :
    lineStatements (k + 4) (t :: ts) = some ([⟨some e, t.left⟩], rest) := by
  have hexpressions : expressions (k + 3) (t :: ts) = some (e, ⟨.newline, left⟩ :: rest) := by
    rw [expressions, starExpression, hstar, h]
    rfl
  rw [lineStatements, hkeyword]
  simp only [expressionStatement, hexpressions, Option.bind_eq_bind, Option.bind_some]
  rfl

end Grammar

/-! ## 3. The script -/

/-- The tokens of a written call, with the lengths of what is left from each of them on. -/
def callLexemes (name content : Text) (left : Nat → Nat) : Lexemes :=
  [⟨.name functionName, left 0⟩, ⟨.sign "(", left 1⟩,
    ⟨.string ⟨false, false, false, name.flatMap (stringChar false)⟩, left 2⟩,
    ⟨.sign ",", left 3⟩,
    ⟨.string ⟨false, false, false, content.flatMap (stringChar false)⟩, left 4⟩,
    ⟨.sign ",", left 5⟩, ⟨.int 2, left 6⟩, ⟨.sign ")", left 7⟩, ⟨.newline, left 8⟩]

theorem call_eq (name content : Text) :
    call (.string name) content
      = functionName ++ .ofChar '(' :: (quote false name ++ .ofChar ',' :: .ofChar ' ' ::
        (quote false content ++ [.ofChar ',', .ofChar ' ', .ofChar '2', .ofChar ')',
          .ofChar '\n'])) := by
  show functionName ++ Text.enclose '(' ')' (quote false name ++ [.ofChar ',', .ofChar ' ']
    ++ (quote false content ++ [.ofChar ',', .ofChar ' '] ++ [.ofChar '2']))
      ++ [.ofChar '\n'] = _
  simp [Text.enclose]

/-- The tokens of a call are those of its parts. -/
theorem exists_lexemes_call (name content : Text) :
    ∃ left, lexemes (call (.string name) content) = some (callLexemes name content left) := by
  have hlength : 12 ≤ 2 * (call (.string name) content).length + 2 := by
    simp [call_eq]
    omega
  obtain ⟨k, hk⟩ := Nat.exists_eq_add_of_le' hlength
  rw [lexemes, hk, call_eq, lexemesFrom_functionName_start, lexemesFrom_functionName,
    lexemesFrom_open _ (by decide), lexemesFrom_quote name (by simp; decide), lexemesFrom_comma,
    lexemesFrom_blank, lexemesFrom_quote content (by simp; decide), lexemesFrom_comma,
    lexemesFrom_blank, lexemesFrom_version, lexemesFrom_close, lexemesFrom_lineEnd]
  exact ⟨fun i => [_, _, _, _, _, _, _, _, _].getD i 0, rfl⟩

/-- The expression of a call. -/
def callExpr (name content : Text) : Expr :=
  .call (.name functionName) [.text name, .text content, .int 2] false

theorem arguments_callLexemes (k : Nat) (name content : Text) (left : Nat → Nat) :
    arguments (k + 11) .first ((callLexemes name content left).drop 2)
      = some ([.text name, .text content, .int 2], false, [⟨.newline, left 8⟩]) := by
  have hversion : arguments (k + 7) .placed ((callLexemes name content left).drop 6)
      = some ([.int 2], false, [⟨.newline, left 8⟩]) :=
    arguments_of_atom (.inr rfl) (startsOperand_int ..) rfl (endsArgument_close ..) rfl rfl
  have hcontent : arguments (k + 9) .placed ((callLexemes name content left).drop 4)
      = some ([.text content, .int 2], false, [⟨.newline, left 8⟩]) :=
    arguments_of_atom (.inr rfl) (startsOperand_string ..) rfl (endsArgument_comma ..)
      (atom_string (endsArgument_comma ..) (value?_quote content))
      (moreArguments_comma.trans hversion)
  exact arguments_of_atom (.inl rfl) (startsOperand_string ..) rfl (endsArgument_comma ..)
    (atom_string (endsArgument_comma ..) (value?_quote name))
    (moreArguments_comma.trans hcontent)

theorem expression_callLexemes (k : Nat) (name content : Text) (left : Nat → Nat) :
    expression (k + 16) (callLexemes name content left)
      = some (callExpr name content, [⟨.newline, left 8⟩]) := by
  have hatom : atom (k + 12) (callLexemes name content left)
      = some (.name functionName, (callLexemes name content left).drop 1) := rfl
  refine expression_of_primary (startsOperand_functionName ..) (endsArgument_newline ..) ?_
  refine (primary_of_atom (startsOperand_functionName ..) hatom).trans ?_
  exact trailers_call (arguments_callLexemes k name content left) (endsArgument_newline ..)

/-- The statements of a call: there is one, and it is the call. -/
theorem exists_statements_call (name content : Text) :
    ∃ left, statements? (call (.string name) content)
      = some [⟨some (callExpr name content), left⟩] := by
  obtain ⟨left, hlexemes⟩ := exists_lexemes_call name content
  obtain ⟨k, hk⟩ : ∃ k, stepsPerCodePoint * ((call (.string name) content).length + 1) = k + 21 :=
    Nat.exists_eq_add_of_le' (by rw [stepsPerCodePoint]; omega)
  have hstatement : statement (k + 20) (callLexemes name content left)
      = some ([⟨some (callExpr name content), left 0⟩], []) :=
    lineStatements_expression (t := ⟨.name functionName, left 0⟩) rfl rfl
      (expression_callLexemes k name content left)
  refine ⟨left 0, ?_⟩
  rw [statements?, hlexemes, hk]
  show (statement (k + 20) (callLexemes name content left)).bind (fun answer => _) = _
  rw [hstatement]
  rfl

theorem isSurrogate_of_ascii {c : CodePoint} (h : c.val < 0x80) : c.isSurrogate = false := by
  rw [CodePoint.isSurrogate, decide_eq_false (by omega), Bool.false_and]

theorem surrogates?_eq_none {t : Text} (h : ∀ c ∈ t, c.isSurrogate = false) :
    surrogates? t = none := by
  have hspan : t.span (fun c => !c.isSurrogate) = (t, []) := by
    have hall : ∀ c ∈ t, (!c.isSurrogate) = true := by simpa using h
    rw [List.span_eq_takeWhile_dropWhile, List.takeWhile_eq_self_iff.mpr hall,
      List.dropWhile_eq_nil_iff.mpr hall]
  rw [surrogates?, hspan]
  rfl

/-- A surrogate anywhere in a text is found. -/
theorem exists_surrogates {t : Text} {c : CodePoint} (hc : c ∈ t) (h : c.isSurrogate = true) :
    ∃ first index count, surrogates? t = some (.unencodable first index count) := by
  have hrest : t.dropWhile (fun c => !c.isSurrogate) ≠ [] := by
    rw [ne_eq, List.dropWhile_eq_nil_iff]
    intro hall
    have hnot := hall c hc
    rw [h] at hnot
    cases hnot
  obtain ⟨first, rest, hcons⟩ := List.exists_cons_of_ne_nil hrest
  rw [surrogates?, List.span_eq_takeWhile_dropWhile, hcons]
  exact ⟨_, _, _, rfl⟩

/-- A call without the end of its line. -/
def callLine (name content : Text) : Text :=
  functionName ++ .ofChar '(' :: (quote false name ++ .ofChar ',' :: .ofChar ' ' ::
    (quote false content ++ [.ofChar ',', .ofChar ' ', .ofChar '2', .ofChar ')']))

theorem call_eq_callLine (name content : Text) :
    call (.string name) content = callLine name content ++ [.ofChar '\n'] := by
  simp [call_eq, callLine]

/-- A code point of a call is one of a text that was given, or an ASCII one, and no control
character. -/
theorem mem_callLine {name content : Text} {c : CodePoint} (h : c ∈ callLine name content) :
    0x20 ≤ c.val ∧ (c ∈ name ∨ c ∈ content ∨ c.val < 0x80) := by
  have hfunction : ∀ d ∈ functionName, 0x20 ≤ d.val ∧ d.val < 0x80 := by decide
  have hmarks : ∀ d ∈ ([.ofChar '(', .ofChar ',', .ofChar ' ', .ofChar '2', .ofChar ')'] : Text),
      0x20 ≤ d.val ∧ d.val < 0x80 := by decide
  have hparts : c ∈ functionName ∨ c ∈ quote false name ∨ c ∈ quote false content
      ∨ c ∈ ([.ofChar '(', .ofChar ',', .ofChar ' ', .ofChar '2', .ofChar ')'] : Text) := by
    simp only [callLine, List.mem_append, List.mem_cons, List.not_mem_nil, or_false] at h ⊢
    tauto
  rcases hparts with hc | hc | hc | hc
  · obtain ⟨hlow, hhigh⟩ := hfunction c hc
    exact ⟨hlow, .inr (.inr hhigh)⟩
  · obtain ⟨hlow, hc | hhigh⟩ := Json.mem_quote hc
    · exact ⟨hlow, .inl hc⟩
    · exact ⟨hlow, .inr (.inr hhigh)⟩
  · obtain ⟨hlow, hc | hhigh⟩ := Json.mem_quote hc
    · exact ⟨hlow, .inr (.inl hc)⟩
    · exact ⟨hlow, .inr (.inr hhigh)⟩
  · obtain ⟨hlow, hhigh⟩ := hmarks c hc
    exact ⟨hlow, .inr (.inr hhigh)⟩

/-- The line feed at its end is the only control character of a call. -/
theorem mem_call {name content : Text} {c : CodePoint} (h : c ∈ call (.string name) content) :
    (c = .ofChar '\n' ∨ 0x20 ≤ c.val) ∧ (c ∈ name ∨ c ∈ content ∨ c.val < 0x80) := by
  rw [call_eq_callLine] at h
  rcases List.mem_append.mp h with h | h
  · obtain ⟨hlow, hfrom⟩ := mem_callLine h
    exact ⟨.inr hlow, hfrom⟩
  · rw [List.mem_singleton.mp h]
    exact ⟨.inl rfl, .inr (.inr (by decide))⟩

/-- The only line of a call is closed. -/
theorem closedLines_call (name content : Text) :
    closedLines (call (.string name) content) = call (.string name) content := by
  have hunix : Text.unixLines (call (.string name) content) = call (.string name) content := by
    refine Text.unixLines_eq_self fun h => ?_
    rcases (mem_call h).1 with hc | hc
    · exact absurd hc (by decide)
    · exact absurd hc (by decide)
  obtain ⟨before, hlast⟩ : ∃ before, (call (.string name) content).reverse
      = .ofChar '\n' :: .ofChar ')' :: before := by
    simp [call_eq_callLine, callLine]
  rw [closedLines, hlast, hunix]
  rfl

/-- **A script that was written is read as the call that it is**: one call, with the name, the
content and the version that were written. -/
theorem readCalls_call {name content : Text} (hname : ∀ c ∈ name, c.isSurrogate = false)
    (hcontent : ∀ c ∈ content, c.isSurrogate = false) :
    readCalls (call (.string name) content) = .ok [[.text name, .text content, .int 2]] := by
  have hsurrogates : surrogates? (call (.string name) content) = none := by
    refine surrogates?_eq_none fun c hc => ?_
    rcases (mem_call hc).2 with hc | hc | hc
    · exact hname c hc
    · exact hcontent c hc
    · exact isSurrogate_of_ascii hc
  have hnull : (call (.string name) content).any (·.val = 0) = false := by
    rw [List.any_eq_false]
    intro c hc
    rcases (mem_call hc).1 with rfl | hlow
    · decide
    · rw [decide_eq_true_eq]
      omega
  obtain ⟨left, hstatements⟩ := exists_statements_call name content
  rw [readCalls, hsurrogates]
  simp only [hnull, closedLines_call, hstatements]
  rfl

end SongSheet.Script
