import SongSheet.Yaml.Error
import SongSheet.Yaml.Source

/-!
# Block scalars

A scalar of whole lines: behind a bar it keeps its lines, behind a greater-than sign they are
folded. Its head says what becomes of the line ends behind it, and how deep it is indented; if the
head does not say so, its first lines do.
-/

set_option autoImplicit false

namespace SongSheet.Yaml

/-- What becomes of the line ends at the end of a block scalar. -/
inductive Chomping where
  /-- All go. -/
  | strip
  /-- One stays. -/
  | clip
  /-- All stay. -/
  | keep
  deriving DecidableEq, Repr

namespace Block

/-- A sign for the line ends. -/
def chomping? (t : Text) : Option (Chomping × Text) :=
  match t with
  | c :: t => if c = '+' then some (.keep, t) else if c = '-' then some (.strip, t) else none
  | [] => none

/-- A digit for the indentation. -/
def indentation? (t : Text) : Option (Nat × Text) :=
  match t with
  | c :: t => c.asciiDigit?.map (·, t)
  | [] => none

/-- The head of a block scalar: what becomes of line ends, the indentation if it is given, and what
follows the line of the head. -/
def head (t : Text) : Except Error (Chomping × Option Nat × Text) := do
  let (chomping, indentation, rest) : Chomping × Option Nat × Text :=
    match chomping? t, indentation? t with
    | some (chomping, t), _ =>
      match indentation? t with
      | some (n, t) => (chomping, some n, t)
      | none => (chomping, none, t)
    | none, some (n, t) =>
      match chomping? t with
      | some (chomping, t) => (chomping, some n, t)
      | none => (.clip, some n, t)
    | none, none => (.clip, none, t)
  if indentation = some 0 ∨ !isSpaceNext rest then .error .malformed
  else
    match lineEnd? rest with
    | some rest => return (chomping, indentation, rest)
    | none => .error .malformed

/-- Line ends in front of the first line, with the most spaces on a line there, those on the line
that follows, and the rest. `column` counts the spaces passed on this line. -/
def openingLines (column most : Nat) : Text → Text × Nat × Nat × Text
  | [] => ([], most, column, [])
  | c :: t =>
    if c = ' ' then openingLines (column + 1) (max most (column + 1)) t
    else if isBreak c then
      let (ends, rest) := openingLines 0 most t
      (lineEnd c :: ends, rest)
    else ([], most, column, c :: t)

/-- Line ends in front of the next line, the spaces passed on that line, which are not more than the
indentation, and the rest. -/
def emptyLines (indent column : Nat) : Text → Text × Nat × Text
  | [] => ([], column, [])
  | c :: t =>
    if c = ' ' ∧ column < indent then emptyLines indent (column + 1) t
    else if isBreak c then
      let (ends, rest) := emptyLines indent 0 t
      (lineEnd c :: ends, rest)
    else ([], column, c :: t)

/-- A line starts with a blank. -/
def isIndented (t : Text) : Bool := t.head?.any fun (c : CodePoint) => c = ' ' || c = '\t'

/-- The lines of a block scalar behind line ends and spaces that are passed already, and the rest.
Every step takes a line. -/
def linesFrom (isFolded : Bool) (chomping : Chomping) (indent : Nat) :
    Nat → (ends : Text) → (column : Nat) → Text → Text × Text
  | 0, _, _, t => ([], t)
  | steps + 1, ends, column, t =>
    if column ≠ indent ∨ t.isEmpty then (if chomping = .keep then ends else [], t)
    else
      let (line, rest) := t.span fun c => !isBreak c
      let lineEnd : Text := (rest.take 1).map lineEnd
      let (nextEnds, column, rest) :=
        if rest.isEmpty then ([], indent + line.length, []) else emptyLines indent 0 (rest.drop 1)
      if column = indent ∧ !rest.isEmpty then
        let joint : Text :=
          if isFolded && lineEnd = [('\n' : CodePoint)] && !isIndented t && !isIndented rest then
            if nextEnds.isEmpty then [' '] else []
          else lineEnd
        let (more, rest) := linesFrom isFolded chomping indent steps nextEnds column rest
        (ends ++ line ++ joint ++ more, rest)
      else
        let tail : Text :=
          match chomping with
          | .strip => []
          | .clip => lineEnd
          | .keep => lineEnd ++ nextEnds
        (ends ++ line ++ tail, rest)

/-- A block scalar behind its sign, where lines have to be indented by `least`, and the rest. -/
def read (isFolded : Bool) (least : Nat) (t : Text) : Except Error (Text × Text) := do
  let (chomping, indentation, t) ← head t
  let least := max 1 least
  match indentation with
  | none =>
    let (ends, most, column, rest) := openingLines 0 0 t
    return linesFrom isFolded chomping (max least most) (t.length + 1) ends column rest
  | some n =>
    let indent := least + n - 1
    let (ends, column, rest) := emptyLines indent 0 t
    return linesFrom isFolded chomping indent (t.length + 1) ends column rest

end Block

end SongSheet.Yaml
