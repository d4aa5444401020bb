import SongSheet.Json
import SongSheet.Text.Digit

/-!
# Reading JSON values

`Json.read` reads a text that holds one value and nothing else but blanks. A text it refuses gives a
`SyntaxError`: what was wrong and where.

Inside the reader a position is the text that is left from there on, so no function counts; the
index, line and column come out at the end from the length of what was left. The two mutually
recursive parts take a number of steps, and twice the length of the text is always enough of them.
-/

set_option autoImplicit false

namespace SongSheet.Json

/-- What may be wrong with a JSON text. -/
inductive Problem where
  | byteOrderMark
  | value
  | propertyName
  | colon
  | comma
  | unterminatedString
  | controlCharacter
  | escape
  | unicodeEscape
  | extraData
  deriving DecidableEq, Repr

/-- The words for a problem. -/
def Problem.message : Problem → Text
  | .byteOrderMark => "Unexpected UTF-8 BOM (decode using utf-8-sig)"
  | .value => "Expecting value"
  | .propertyName => "Expecting property name enclosed in double quotes"
  | .colon => "Expecting ':' delimiter"
  | .comma => "Expecting ',' delimiter"
  | .unterminatedString => "Unterminated string starting at"
  | .controlCharacter => "Invalid control character at"
  | .escape => "Invalid \\escape"
  | .unicodeEscape => "Invalid \\uXXXX escape"
  | .extraData => "Extra data"

/-- A problem and its place in the text. -/
structure SyntaxError where
  problem : Problem
  index : Nat
  line : Nat
  column : Nat
  deriving DecidableEq, Repr

/-- A problem and what was left of the text where it was met. -/
structure Refusal where
  problem : Problem
  left : Text

/-- Blanks between the parts of a JSON text. -/
def isSpace (c : CodePoint) : Bool := c = ' ' || c = '\t' || c = '\n' || c = '\r'

/-- A text without the blanks it starts with. -/
def skipSpace (t : Text) : Text := t.dropWhile isSpace

/-- A code point of a string, marked when an escape named it by number. -/
structure Piece where
  value : CodePoint
  numbered : Bool

/-- The code points of a string: two numbered pieces that are the halves of a pair are one. -/
def joinPieces : List Piece → Text
  | [] => []
  | [p] => [p.value]
  | p :: q :: rest =>
    if p.numbered && q.numbered && p.value.isHighSurrogate && q.value.isLowSurrogate then
      CodePoint.joinSurrogates p.value q.value :: joinPieces rest
    else p.value :: joinPieces (q :: rest)

/-- What a single letter after a backslash stands for. -/
def letterEscape? (c : CodePoint) : Option CodePoint :=
  if c = '"' ∨ c = '\\' ∨ c = '/' then some c
  else if c = 'b' then some (.ofNat 0x08)
  else if c = 'f' then some (.ofNat 0x0C)
  else if c = 'n' then some '\n'
  else if c = 'r' then some '\r'
  else if c = 't' then some '\t'
  else none

/-- The number that four hexadecimal digits write. -/
def hex4? (a b c d : CodePoint) : Option Nat := do
  return (((← a.hexDigit?) * 16 + (← b.hexDigit?)) * 16 + (← c.hexDigit?)) * 16 + (← d.hexDigit?)

/-- The pieces of a string up to its closing quotation mark, and what is left after that; `start`
is what was left at the opening one. -/
def stringPieces (start : Text) : Text → Except Refusal (List Piece × Text)
  | [] => .error ⟨.unterminatedString, start⟩
  | c :: t =>
    if c = '"' then .ok ([], t)
    else if c = '\\' then
      match t with
      | [] => .error ⟨.unterminatedString, start⟩
      | d :: u =>
        if d = 'u' then
          match u with
          | h1 :: h2 :: h3 :: h4 :: v =>
            match hex4? h1 h2 h3 h4, v with
            | some n, _ :: _ =>
              match stringPieces start v with
              | .ok (pieces, rest) => .ok (⟨.ofNat n, true⟩ :: pieces, rest)
              | .error e => .error e
            | _, _ => .error ⟨.unicodeEscape, t⟩
          | _ => .error ⟨.unicodeEscape, t⟩
        else
          match letterEscape? d with
          | none => .error ⟨.escape, c :: t⟩
          | some e =>
            match stringPieces start u with
            | .ok (pieces, rest) => .ok (⟨e, false⟩ :: pieces, rest)
            | .error e => .error e
    else if c.val < 0x20 then .error ⟨.controlCharacter, c :: t⟩
    else
      match stringPieces start t with
      | .ok (pieces, rest) => .ok (⟨c, false⟩ :: pieces, rest)
      | .error e => .error e

/-- A string after its opening quotation mark. -/
def stringBody (start t : Text) : Except Refusal (Text × Text) :=
  (stringPieces start t).map fun (pieces, rest) => (joinPieces pieces, rest)

/-- A run of ASCII digits and the rest. -/
def asciiDigits (t : Text) : Text × Text := t.span (·.between '0' '9')

/-- A point with digits after it, and the rest; nothing where no digit follows. -/
def fraction (t : Text) : Text × Text :=
  match t with
  | [] => ([], [])
  | c :: u =>
    if c = '.' then
      let (digits, rest) := asciiDigits u
      if digits.isEmpty then ([], t) else (digits, rest)
    else ([], t)

/-- An exponent and the rest; nothing where no digit follows the mark. -/
def exponent? (t : Text) : Option (Int × Text) :=
  match t with
  | [] => none
  | c :: u =>
    if c = 'e' ∨ c = 'E' then
      let (negative, v) : Bool × Text :=
        match u with
        | [] => (false, [])
        | s :: v => if s = '-' then (true, v) else if s = '+' then (false, v) else (false, u)
      let (digits, rest) := asciiDigits v
      if digits.isEmpty then none
      else
        let n : Int := Text.readNat digits
        some (if negative then -n else n, rest)
    else none

/-- A number and the rest. -/
def number? (t : Text) : Option (Json × Text) :=
  let (negative, u) : Bool × Text :=
    match t with
    | [] => (false, [])
    | c :: u => if c = '-' then (true, u) else (false, t)
  let (whole, v) : Text × Text :=
    match u with
    | [] => ([], [])
    | c :: v => if c = '0' then ([c], v) else asciiDigits u
  if whole.isEmpty then none
  else
    let (digits, w) := fraction v
    match exponent? w with
    | some (e, rest) =>
      some (.float (.ofDecimal negative (Text.readNat (whole ++ digits)) (e - digits.length)), rest)
    | none =>
      if digits.isEmpty then
        let n : Int := Text.readNat whole
        some (.int (if negative then -n else n), v)
      else
        some (.float (.ofDecimal negative (Text.readNat (whole ++ digits)) (-digits.length)), w)

/-- A value that is one word, and the rest. -/
def word? (t : Text) : Option (Json × Text) :=
  ([("null", .null), ("true", .bool true), ("false", .bool false), ("NaN", .float .nan),
    ("Infinity", .float (.infinite false)), ("-Infinity", .float (.infinite true))]
      : List (String × Json)).findSome? fun (word, value) =>
    (Text.after? word t).map fun rest => (value, rest)

mutual

/-- A value, and what is left after it. -/
def value : Nat → Text → Except Refusal (Json × Text)
  | 0, t => .error ⟨.value, t⟩
  | _ + 1, [] => .error ⟨.value, []⟩
  | steps + 1, c :: t =>
    if c = '"' then (stringBody (c :: t) t).map fun (s, rest) => (.string s, rest)
    else if c = '{' then
      let u := skipSpace t
      match Text.after? "\x7d" u with
      | some rest => .ok (.object [], rest)
      | none => (members steps u).map fun (fields, rest) => (ofFields fields, rest)
    else if c = '[' then
      let u := skipSpace t
      match Text.after? "]" u with
      | some rest => .ok (.array [], rest)
      | none => (items steps u).map fun (values, rest) => (.array values, rest)
    else
      match word? (c :: t) with
      | some answer => .ok answer
      | none =>
        match number? (c :: t) with
        | some answer => .ok answer
        | none => .error ⟨.value, c :: t⟩

/-- The values of an array that is not empty, up to its closing bracket. -/
def items : Nat → Text → Except Refusal (List Json × Text)
  | 0, t => .error ⟨.value, t⟩
  | steps + 1, t => do
    let (first, u) ← value steps t
    let u := skipSpace u
    match Text.after? "]" u, Text.after? "," u with
    | some rest, _ => return ([first], rest)
    | none, some v =>
      let (others, rest) ← items steps (skipSpace v)
      return (first :: others, rest)
    | none, none => .error ⟨.comma, u⟩

/-- The fields of an object that is not empty, up to its closing brace. -/
def members : Nat → Text → Except Refusal (List (Text × Json) × Text)
  | 0, t => .error ⟨.value, t⟩
  | _ + 1, [] => .error ⟨.propertyName, []⟩
  | steps + 1, c :: t => do
    if c ≠ '"' then .error ⟨.propertyName, c :: t⟩
    else
      let (name, u) ← stringBody (c :: t) t
      let u := skipSpace u
      match Text.after? ":" u with
      | none => .error ⟨.colon, u⟩
      | some v =>
        let (first, w) ← value steps (skipSpace v)
        let w := skipSpace w
        match Text.after? "\x7d" w, Text.after? "," w with
        | some rest, _ => return ([(name, first)], rest)
        | none, some x =>
          let (others, rest) ← members steps (skipSpace x)
          return ((name, first) :: others, rest)
        | none, none => .error ⟨.comma, w⟩

end

/-- One value with nothing after it but blanks. -/
def document (t : Text) : Except Refusal Json :=
  match t with
  | c :: _ =>
    if c.val = 0xFEFF then .error ⟨.byteOrderMark, t⟩
    else do
      let (v, rest) ← value (2 * t.length + 2) (skipSpace t)
      let rest := skipSpace rest
      if rest.isEmpty then return v else .error ⟨.extraData, rest⟩
  | [] => .error ⟨.value, []⟩

/-- The value that a text holds. -/
def read (t : Text) : Except SyntaxError Json :=
  match document t with
  | .ok v => .ok v
  | .error ⟨problem, left⟩ =>
    let index := t.length - left.length
    let (line, column) := t.lineColumn index
    .error ⟨problem, index, line, column⟩

end SongSheet.Json
