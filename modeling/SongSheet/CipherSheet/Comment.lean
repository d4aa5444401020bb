import SongSheet.Text.Blank

/-!
# Comments of cipher sheets

A cipher sheet is read with its comments and blanks taken out: block comments first, then what is
left of the lines after two slashes, then the blanks. A block comment needs its end; without one the
opening is ordinary text.

The first block comment may carry a header: fields at the front of its lines, after blanks and
stars, each with a name, a colon and the rest of the line.
-/

set_option autoImplicit false

namespace SongSheet.CipherSheet

/-- A text without its block comments; `inside` says that one is open. -/
def dropBlockComments (inside : Bool) : Text → Text
  | [] => []
  | [c] => if inside then [] else [c]
  | c :: d :: t =>
    if inside then
      if c = '*' ∧ d = '/' then dropBlockComments false t else dropBlockComments true (d :: t)
    else if c = '/' ∧ d = '*' ∧ Text.contains "*/" t then dropBlockComments true t
    else c :: dropBlockComments false (d :: t)

/-- A text without its line comments; `inside` says that one is open. The line feed at the end of a
comment stays. -/
def dropLineComments (inside : Bool) : Text → Text
  | [] => []
  | c :: t =>
    if c = '\n' then c :: dropLineComments false t
    else if inside || (c = '/' && t.head? = some '/') then dropLineComments true t
    else c :: dropLineComments false t

/-- The music of a sheet: its text without comments and blanks. -/
def music (t : Text) : Text :=
  Text.squeeze (dropLineComments false (dropBlockComments false t))

/-! ## The header -/

/-- The fields a header may have. -/
inductive Field where
  | name
  | author
  | arrangedBy
  | transcribedBy
  deriving DecidableEq, Repr

/-- The word that names a field. -/
def Field.word : Field → Text
  | .name => "name"
  | .author => "author"
  | .arrangedBy => "arrangedBy"
  | .transcribedBy => "transcribedBy"

/-- The field that a text starts with the name of, and what follows the name. -/
def fieldName? (t : Text) : Option (Field × Text) :=
  [Field.name, .author, .arrangedBy, .transcribedBy].findSome? fun field =>
    (Text.after? field.word t).map fun rest => (field, rest)

/-- A space or a tab. -/
def isSpaceOrTab (c : CodePoint) : Bool := c = ' ' || c = '\t'

/-- The value of a field: the rest of the line without the spaces at its ends. -/
def fieldValue (t : Text) : Text :=
  let line := (t.dropWhile isSpaceOrTab).takeWhile (· ≠ ('\n' : CodePoint))
  (line.reverse.dropWhile fun c => isSpaceOrTab c || c = '\r').reverse

/-- The field that stands at the front of a text, after blanks and stars. -/
def headerField? (t : Text) : Option (Field × Text) := do
  let (field, rest) ← fieldName? (t.dropWhile fun c => c.isBlank || c = '*')
  let rest ← Text.after? ":" (Text.trimLeft rest)
  return (field, fieldValue rest)

/-- What is left of a text from the start of every line but the first. -/
def laterLines : Text → List Text
  | [] => []
  | c :: t => if c = '\n' then t :: laterLines t else laterLines t

/-- The first block comment of a text, with its marks. -/
def firstComment? (t : Text) : Option Text := do
  let (_, rest) ← Text.cut? "/*" t
  let (body, _) ← Text.cut? "*/" rest
  return ("/*" : Text) ++ body ++ ("*/" : Text)

/-- The fields of the header with a value, in order. A field whose name comes some lines below the
start of a line, with nothing but blanks and stars between, is met from each of these lines. -/
def headerFields (t : Text) : List (Field × Text) :=
  match firstComment? t with
  | none => []
  | some comment =>
    ((comment :: laterLines comment).filterMap headerField?).filter fun (_, value) => !value.isEmpty

/-- The last value of a field, and nothing where there is none. -/
def headerValue (t : Text) (field : Field) : Text :=
  ((((headerFields t).filter (·.1 = field)).getLast?).map (·.2)).getD []

end SongSheet.CipherSheet
