import SongSheet.Script.Identifier
import SongSheet.Text.Digit

/-!
# Tokens of scripts

A script is cut into names, numbers, strings, signs, and the ends and indentations of its lines.
Inside brackets line ends do not count, and a backslash at the end of a line joins the next one to
it. A text that cannot be cut, or whose brackets do not match, has no tokens.

Every token knows how much of the text was left where it began; that is its position.
-/

set_option autoImplicit false

namespace SongSheet.Script

/-- A string as it stands between its quotation marks. -/
structure StringToken where
  /-- Backslashes are ordinary. -/
  raw : Bool
  /-- The string holds bytes. -/
  bytes : Bool
  /-- The string has expressions in braces. -/
  formatted : Bool
  body : Text
  deriving DecidableEq, Repr

/-- A part of a script. -/
inductive Token where
  | name (id : Text)
  | int (value : Nat)
  | float
  | imaginary
  | string (s : StringToken)
  | sign (s : String)
  | newline
  | indent
  | dedent
  deriving DecidableEq, Repr

/-- A token and the length of the text from its beginning on. -/
structure Lexeme where
  token : Token
  left : Nat
  deriving DecidableEq, Repr

/-- A code point that may belong to a name. -/
def isNamePart (c : CodePoint) : Bool := 0x80 ≤ c.val || isIdentifierPart c

/-! ## Numbers -/

/-- Digits, single underscores between them, and the rest. -/
def moreDigits (isDigit : CodePoint → Bool) : Text → Text × Text
  | [] => ([], [])
  | c :: t =>
    if isDigit c then
      let (digits, rest) := moreDigits isDigit t
      (c :: digits, rest)
    else if c = '_' then
      match t with
      | [] => ([], [c])
      | d :: u =>
        if isDigit d then
          let (digits, rest) := moreDigits isDigit u
          (d :: digits, rest)
        else ([], c :: t)
    else ([], c :: t)

/-- Decimal digits of a numeral and the rest; none where the text does not start with one. -/
def digitPart (t : Text) : Text × Text :=
  match t with
  | c :: _ => if c.between '0' '9' then moreDigits (·.between '0' '9') t else ([], t)
  | [] => ([], t)

/-- The number that digits of a base write. -/
def numberOf (base : Nat) (digits : Text) : Nat :=
  digits.foldl (fun n c => n * base + c.hexDigit?.getD 0) 0

/-- The base that a letter after a leading zero names, with its digits. -/
def base? (c : CodePoint) : Option (Nat × (CodePoint → Bool)) :=
  if c = 'x' ∨ c = 'X' then some (16, fun d => d.hexDigit?.isSome)
  else if c = 'o' ∨ c = 'O' then some (8, (·.between '0' '7'))
  else if c = 'b' ∨ c = 'B' then some (2, (·.between '0' '1'))
  else none

/-- An exponent of a number, if there is one: the rest after it. -/
def exponentRest? (t : Text) : Option Text :=
  match t with
  | [] => none
  | c :: u =>
    if c = 'e' ∨ c = 'E' then
      let v : Text :=
        match u with
        | s :: v => if s = '+' ∨ s = '-' then v else u
        | [] => []
      let (digits, rest) := digitPart v
      if digits.isEmpty then none else some rest
    else none

/-- A number in base ten at the front of a text. A whole number other than zero has no leading zero,
unless the word `else` follows at once: its first letter makes the number one with an exponent,
though there are no digits for it. -/
def decimal? (t : Text) : Option (Token × Text) :=
  let (whole, u) := digitPart t
  let (pointed, v) : Bool × Text :=
    match Text.after? "." u with
    | some v => (true, (digitPart v).2)
    | none => (false, u)
  let (scaled, w) : Bool × Text :=
    match exponentRest? v with
    | some w => (true, w)
    | none => (false, v)
  let real : Option (Token × Text) :=
    if pointed || scaled then some (.float, w)
    else if whole.head? = some '0' ∧ numberOf 10 whole ≠ 0 then
      (Text.after? "else" w).map fun _ => (.float, w)
    else some (.int (numberOf 10 whole), w)
  match w with
  | c :: rest => if c = 'j' ∨ c = 'J' then some (.imaginary, rest) else real
  | [] => real

/-- The words that may follow a number without a blank. -/
def wordsAfterNumbers : List String := ["and", "else", "for", "if", "in", "is", "not", "or"]

/-- A number may end in front of a text: no name goes on there, other than an operator. -/
def endsNumber (t : Text) : Bool :=
  let following := t.takeWhile isNamePart
  following.isEmpty || wordsAfterNumbers.any fun (w : String) => following = Text.ofString w

/-- A number at the front of a text, and the rest. -/
def number? (t : Text) : Option (Token × Text) :=
  let found : Option (Token × Text) :=
    match t with
    | z :: c :: u =>
      match if z = '0' then base? c else none with
      | some (base, isDigit) =>
        let (digits, rest) := moreDigits isDigit u
        if digits.isEmpty then none else some (.int (numberOf base digits), rest)
      | none => decimal? t
    | _ => decimal? t
  found.filter fun (_, rest) => endsNumber rest

/-! ## Strings -/

/-- The body of a string that ends on its line, and the rest after its closing mark. -/
def lineString (mark : CodePoint) : Text → Option (Text × Text)
  | [] => none
  | c :: t =>
    if c = mark then some ([], t)
    else if c = '\n' then none
    else if c = '\\' then
      match t with
      | [] => none
      | d :: u => (lineString mark u).map fun (body, rest) => (c :: d :: body, rest)
    else (lineString mark t).map fun (body, rest) => (c :: body, rest)

/-- The body of a string between threefold marks, and the rest after the closing ones. -/
def blockString (mark : CodePoint) : Text → Option (Text × Text)
  | [] => none
  | c :: t =>
    match Text.after? [mark, mark, mark] (c :: t) with
    | some rest => some ([], rest)
    | none =>
      if c = '\\' then
        match t with
        | [] => none
        | d :: u => (blockString mark u).map fun (body, rest) => (c :: d :: body, rest)
      else (blockString mark t).map fun (body, rest) => (c :: body, rest)

/-- The body of a string after its first mark, and the rest. -/
def stringRest? (mark : CodePoint) (t : Text) : Option (Text × Text) :=
  match Text.after? [mark, mark] t with
  | some u => blockString mark u
  | none => lineString mark t

/-- The string that begins with these letters, but for its body. -/
def stringForm? (letters : Text) : Option StringToken :=
  let lower : Text := letters.map fun c => if c.between 'A' 'Z' then .ofNat (c.val + 32) else c
  let form (raw bytes formatted : Bool) : Option StringToken := some ⟨raw, bytes, formatted, []⟩
  if lower = "" ∨ lower = "u" then form false false false
  else if lower = "r" then form true false false
  else if lower = "b" then form false true false
  else if lower = "f" then form false false true
  else if lower = "br" ∨ lower = "rb" then form true true false
  else if lower = "fr" ∨ lower = "rf" then form true false true
  else none

/-! ## Signs -/

/-- The signs, longer ones before those they start with. -/
def signs : List String :=
  ["**=", "//=", ">>=", "<<=", "...", "!=", "**", "//", "<<", ">>", "<=", ">=", "==", "->", ":=",
    "+=", "-=", "*=", "/=", "%=", "@=", "&=", "|=", "^=", "(", ")", "[", "]", "\x7b", "\x7d", ",",
    ":", ".", ";", "@", "=", "+", "-", "*", "/", "%", "&", "|", "^", "~", "<", ">"]

/-- The sign at the front of a text, and the rest. -/
def sign? (t : Text) : Option (String × Text) :=
  signs.findSome? fun (s : String) => (Text.after? s t).map fun rest => (s, rest)

/-- The bracket that closes an opening one. -/
def closing? (s : String) : Option String :=
  if s = "(" then some ")"
  else if s = "[" then some "]"
  else if s = "\x7b" then some "\x7d"
  else none

/-- The brackets that are open after a sign: each is kept as the one that will close it. A closing
bracket has to fit, and no more than two hundred may be open. -/
def afterSign? (opened : List String) (s : String) : Option (List String) :=
  match closing? s with
  | some close => if opened.length < 200 then some (close :: opened) else none
  | none =>
    if s = ")" ∨ s = "]" ∨ s = "\x7d" then
      match opened with
      | close :: rest => if s = close then some rest else none
      | [] => none
    else some opened

/-! ## Lines -/

/-- A blank inside a line. -/
def isLineBlank (c : CodePoint) : Bool := c = ' ' || c = '\t' || c.val = 0x0C

/-- The width of an indentation, tabs to multiples of eight and tabs as one column, and the rest. A
backslash at the end of a line joins the next one, and the width up to the first such end counts,
unless it is zero: `joined` is that width. -/
def indentation (joined width alternate : Nat) : Text → (Nat × Nat) × Text
  | [] => (if joined = 0 then (width, alternate) else (joined, joined), [])
  | c :: t =>
    if c = ' ' then indentation joined (width + 1) (alternate + 1) t
    else if c = '\t' then indentation joined ((width / 8 + 1) * 8) (alternate + 1) t
    else if c.val = 0x0C then indentation joined 0 0 t
    else
      let here : Nat × Nat := if joined = 0 then (width, alternate) else (joined, joined)
      match t with
      | d :: e :: rest =>
        if c = '\\' ∧ d = '\n' then
          indentation (if joined = 0 then width else joined) width alternate (e :: rest)
        else (here, c :: t)
      | _ => (here, c :: t)

/-- The indentations that go on after a line with a width, and the tokens that say so. Tabs and
spaces have to agree. -/
def indentTokens (width : Nat × Nat) : List (Nat × Nat) → Option (List Token × List (Nat × Nat))
  | [] => if width = (0, 0) then some ([], []) else some ([.indent], [width])
  | top :: below =>
    if width.1 = top.1 then
      if width.2 = top.2 then some ([], top :: below) else none
    else if top.1 < width.1 then
      if top.2 < width.2 then some ([.indent], width :: top :: below) else none
    else
      match indentTokens width below with
      | some (.indent :: _, _) => none
      | some (tokens, rest) => some (.dedent :: tokens, rest)
      | none => none

/-- The tokens from inside a line or from its start, with the brackets that are open and the
indentations that go on. -/
def lexemesFrom : Nat → Bool → List String → List (Nat × Nat) → Text → Option (List Lexeme)
  | 0, _, _, _, _ => none
  | steps + 1, true, opened, indents, t =>
    let (width, u) := indentation 0 0 0 t
    match u with
    | [] => some (indents.map fun _ => ⟨.dedent, 0⟩)
    | c :: v =>
      if c = '\n' then lexemesFrom steps true opened indents v
      else if c = '#' then
        lexemesFrom steps true opened indents (u.dropWhile (· ≠ ('\n' : CodePoint)))
      else
        match indentTokens width indents with
        | none => none
        | some (tokens, indents) =>
          (lexemesFrom steps false opened indents u).map fun rest =>
            tokens.map (⟨·, u.length⟩) ++ rest
  | steps + 1, false, opened, indents, t =>
    let u : Text := t.dropWhile isLineBlank
    let found (token : Token) (rest : Text) : Option (List Lexeme) :=
      (lexemesFrom steps false opened indents rest).map (⟨token, u.length⟩ :: ·)
    match u with
    | [] => none
    | c :: v =>
      if c = '\n' then
        if opened.isEmpty then
          (lexemesFrom steps true opened indents v).map (⟨.newline, u.length⟩ :: ·)
        else lexemesFrom steps false opened indents v
      else if c = '#' then
        lexemesFrom steps false opened indents (v.dropWhile (· ≠ ('\n' : CodePoint)))
      else if c = '\\' then
        match Text.after? "\n" v with
        | some w => if w.isEmpty then none else lexemesFrom steps false opened indents w
        | none => none
      else if c.between '0' '9' || (c = '.' && (v.head?.any (·.between '0' '9'))) then
        (number? u).bind fun (token, rest) => found token rest
      else if c = '"' ∨ c = '\'' then
        (stringRest? c v).bind fun (body, rest) => found (.string ⟨false, false, false, body⟩) rest
      else if isNamePart c then
        let (word, rest) := u.span isNamePart
        match stringForm? word, rest with
        | some form, mark :: after =>
          if mark = '"' ∨ mark = '\'' then
            (stringRest? mark after).bind fun (body, rest) =>
              found (.string { form with body }) rest
          else found (.name word) rest
        | _, _ => if isIdentifier word then found (.name word) rest else none
      else
        match sign? u with
        | none => none
        | some (s, rest) =>
          match afterSign? opened s with
          | none => none
          | some opened =>
            (lexemesFrom steps false opened indents rest).map (⟨.sign s, u.length⟩ :: ·)

/-- The tokens of a text whose lines end in line feeds, the last one too. -/
def lexemes (t : Text) : Option (List Lexeme) := lexemesFrom (2 * t.length + 2) true [] [] t

end SongSheet.Script
