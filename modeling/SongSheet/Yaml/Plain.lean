import SongSheet.Yaml.Source

/-!
# Plain scalars

A scalar without quotes ends before what could not belong to it: a colon or a number sign that
counts, and inside brackets the signs of brackets too. It may go on over several lines. One line end
counts as a space, and of several the first one is left out.
-/

set_option autoImplicit false

namespace SongSheet.Yaml

/-- Signs that stand for themselves only in quotes, if brackets are open. -/
def isBracketSign (c : CodePoint) : Bool :=
  c = ',' || c = '[' || c = ']' || c = '{' || c = '}'

/-- Signs that no plain scalar starts with. -/
def indicators : Text := "-?:,[]\x7b\x7d#&*!|>'\"%@\x60"

/-- A plain scalar may start here: not with a sign, but for a dash, and outside brackets a question
mark or a colon, that no blank follows. -/
def startsPlain (inBrackets : Bool) : Text → Bool
  | [] => false
  | c :: t =>
    !isBlankNext (c :: t) && (!indicators.elem c
      || (!isBlankNext t && (c = '-' || (!inBrackets && (c = '?' || c = ':')))))

/-- A piece of a plain scalar without blanks, and the rest. -/
def plainPiece (inBrackets : Bool) : Text → Text × Text
  | [] => ([], [])
  | c :: t =>
    let ends : Bool :=
      isBlankNext (c :: t)
        || (c = ':' && (isBlankNext t || (inBrackets && t.head?.any isBracketSign)))
        || (inBrackets && (c = '?' || isBracketSign c))
    if ends then ([], c :: t)
    else
      let (piece, rest) := plainPiece inBrackets t
      (c :: piece, rest)

/-- The line ends among spaces and line ends, and the rest; nothing where a mark of a document
follows one. -/
def lineEnds : Text → Option Text × Text
  | [] => (some [], [])
  | c :: t =>
    if c = ' ' then lineEnds t
    else if isBreak c then
      if isDocumentMarkNext t then (none, t)
      else
        let (ends, rest) := lineEnds t
        (ends.map (lineEnd c :: ·), rest)
    else (some [], c :: t)

/-- What stands between the pieces of a plain scalar. -/
structure Gap where
  /-- The text that it is, if the scalar may go on. -/
  text : Option Text
  /-- It has the end of a line. -/
  crosses : Bool
  rest : Text

/-- The gap in front of a text. -/
def gap (t : Text) : Gap :=
  let (spaces, rest) := t.span (· = (' ' : CodePoint))
  if isLineEndNext rest && !rest.isEmpty then
    let (ends, rest) := lineEnds rest
    ⟨ends.map folded, true, rest⟩
  else ⟨if spaces.isEmpty then none else some spaces, false, rest⟩

/-- How many spaces were passed since the last line end, where some of a text was. -/
def indentPassed (t rest : Text) : Nat :=
  ((t.take (t.length - rest.length)).reverse.takeWhile fun c => !isBreak c).length

/-- A plain scalar, whether a line ended behind its last piece, and the rest. Outside brackets it
goes on only on lines that are indented by `least`. Every step takes a piece. -/
def plainFrom (inBrackets : Bool) (least : Nat) : Nat → Text → Text × Bool × Text
  | 0, t => ([], false, t)
  | steps + 1, t =>
    let (piece, rest) := plainPiece inBrackets t
    let gap := gap rest
    let isDone : Bool :=
      gap.rest.head? = some ('#' : CodePoint) || (plainPiece inBrackets gap.rest).1.isEmpty
        || (!inBrackets && gap.crosses && indentPassed rest gap.rest < least)
    match gap.text with
    | none => (piece, gap.crosses, gap.rest)
    | some between =>
      if isDone then (piece, gap.crosses, gap.rest)
      else
        let (more, crosses, rest) := plainFrom inBrackets least steps gap.rest
        (piece ++ between ++ more, crosses, rest)

/-- A plain scalar in front of a text, whether a line ended behind it, and the rest. -/
def plain (inBrackets : Bool) (least : Nat) (t : Text) : Text × Bool × Text :=
  plainFrom inBrackets least (t.length + 1) t

end SongSheet.Yaml
