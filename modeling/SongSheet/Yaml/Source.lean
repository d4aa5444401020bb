import SongSheet.Text

/-!
# Places in a YAML text

A `Source` is what is left of a text, and where it stands: how many code points came before it, on
which line, and in which column. Columns tell how deep a line is indented. A byte order mark takes
no column.

`Source.moveTo` goes on to a later place of the same text, which is how every scan of a part of the
text ends.
-/

set_option autoImplicit false

namespace SongSheet.Yaml

/-- A YAML text may hold this code point. -/
def isAllowed (c : CodePoint) : Bool :=
  c = '\t' || c = '\n' || c = '\r' || (0x20 ≤ c.val && c.val ≤ 0x7E) || c.val = 0x85
    || (0xA0 ≤ c.val && c.val ≤ 0xD7FF) || (0xE000 ≤ c.val && c.val ≤ 0xFFFD) || 0x10000 ≤ c.val

/-- A code point that ends a line. -/
def isBreak (c : CodePoint) : Bool :=
  c = '\n' || c = '\r' || c.val = 0x85 || c.val = 0x2028 || c.val = 0x2029

/-- The end of a line as it stands in a scalar: a line feed, unless it is one of the separators. -/
def lineEnd (c : CodePoint) : CodePoint :=
  if c.val = 0x2028 ∨ c.val = 0x2029 then c else '\n'

/-- What line ends between the pieces of a scalar stand for: one is a space, of several the first
one counts for nothing. A line separator counts always. -/
def folded : Text → Text
  | [] => []
  | c :: ends =>
    if c ≠ '\n' then c :: ends else if ends.isEmpty then [' '] else ends

/-- The end of the text or of the line comes next. -/
def isLineEndNext : Text → Bool
  | [] => true
  | c :: _ => isBreak c

/-- The end of the text or of the line, or a space comes next. -/
def isSpaceNext : Text → Bool
  | [] => true
  | c :: _ => c = ' ' || isBreak c

/-- The end of the text or of the line, or a blank comes next. -/
def isBlankNext : Text → Bool
  | [] => true
  | c :: _ => c = ' ' || c = '\t' || isBreak c

/-- A text without the spaces that it starts with. -/
def dropSpaces (t : Text) : Text := t.dropWhile (· = (' ' : CodePoint))

/-- A text at the end of its line, past spaces and a comment, if nothing else stands there. -/
def lineEnd? (t : Text) : Option Text :=
  let t := dropSpaces t
  let t := if t.head? = some ('#' : CodePoint) then t.dropWhile fun c => !isBreak c else t
  if isLineEndNext t then some (t.drop 1) else none

/-- A mark of the beginning or the end of a document comes next. -/
def isDocumentMarkNext (t : Text) : Bool :=
  let isMark (mark : Text) : Bool := (Text.after? mark t).any isBlankNext
  isMark "---" || isMark "..."

/-- What is left of a text, and where that is. -/
structure Source where
  rest : Text
  index : Nat := 0
  line : Nat := 0
  column : Nat := 0

namespace Source

/-- The place behind a code point. -/
def pass (s : Source) (c : CodePoint) : Source :=
  let rest := s.rest.drop 1
  if isBreak c then ⟨rest, s.index + 1, s.line + 1, 0⟩
  else ⟨rest, s.index + 1, s.line, if c.val = 0xFEFF then s.column else s.column + 1⟩

/-- The place so many code points further. -/
def forward (s : Source) (count : Nat) : Source := (s.rest.take count).foldl pass s

/-- The place where a later part of the text starts. -/
def moveTo (s : Source) (rest : Text) : Source := s.forward (s.rest.length - rest.length)

end Source

end SongSheet.Yaml
