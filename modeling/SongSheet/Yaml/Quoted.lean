import SongSheet.Yaml.Error
import SongSheet.Yaml.Source

/-!
# Quoted scalars

Between apostrophes only the apostrophe itself is special, and is written twice. Between quotation
marks a backslash names a code point, or takes the end of a line away.

A quoted scalar may go on over several lines. The blanks around a line end do not count; one line
end is a space, and of several the first one is left out.
-/

set_option autoImplicit false

namespace SongSheet.Yaml

/-- The code point that a letter after a backslash names. -/
def escape? (c : CodePoint) : Option CodePoint :=
  if c = '0' then some (.ofNat 0x00)
  else if c = 'a' then some (.ofNat 0x07)
  else if c = 'b' then some (.ofNat 0x08)
  else if c = 't' ∨ c = '\t' then some '\t'
  else if c = 'n' then some '\n'
  else if c = 'v' then some (.ofNat 0x0B)
  else if c = 'f' then some (.ofNat 0x0C)
  else if c = 'r' then some '\r'
  else if c = 'e' then some (.ofNat 0x1B)
  else if c = ' ' ∨ c = '"' ∨ c = '\\' ∨ c = '/' then some c
  else if c = 'N' then some (.ofNat 0x85)
  else if c = '_' then some (.ofNat 0xA0)
  else if c = 'L' then some (.ofNat 0x2028)
  else if c = 'P' then some (.ofNat 0x2029)
  else none

/-- How many hexadecimal digits name a code point after a letter. -/
def hexWidth? (c : CodePoint) : Option Nat :=
  if c = 'x' then some 2 else if c = 'u' then some 4 else if c = 'U' then some 8 else none

/-- The code point that hexadecimal digits name. -/
def hexCode (width : Nat) (t : Text) : Except Error CodePoint :=
  let digits := t.take width
  let value := Text.hexNumber digits
  if digits.length < width ∨ !digits.all fun c => c.hexDigit?.isSome then .error .malformed
  else if h : value < 0x110000 then .ok ⟨value, h⟩
  else if value < Nat.pow 2 31 then .error .escapeRange
  else .error .escapeSize

/-- The line ends among blanks and line ends, and the rest, `starts` saying that a line has just
ended. No mark of a document may follow one. -/
def quotedLineEnds (starts : Bool) : Text → Except Error (Text × Text)
  | [] => .ok ([], [])
  | c :: t =>
    if starts && isDocumentMarkNext (c :: t) then .error .malformed
    else if c = ' ' ∨ c = '\t' then quotedLineEnds false t
    else if isBreak c then
      (quotedLineEnds true t).map fun (ends, rest) => (lineEnd c :: ends, rest)
    else .ok ([], c :: t)

/-- What blanks and line ends inside of quotes stand for, and the rest. -/
def quotedGap (t : Text) : Except Error (Text × Text) :=
  let (blanks, rest) := t.span fun (c : CodePoint) => c = ' ' || c = '\t'
  match rest with
  | [] => .error .malformed
  | c :: _ =>
    if isBreak c then (quotedLineEnds false rest).map fun (ends, rest) => (folded ends, rest)
    else .ok (blanks, rest)

/-- What a backslash and what is behind it stand for, and the rest. -/
def escaped : Text → Except Error (Text × Text)
  | [] => .error .malformed
  | c :: t =>
    match escape? c, hexWidth? c with
    | some d, _ => .ok ([d], t)
    | none, some width => (hexCode width t).map fun d => ([d], t.drop width)
    | none, none => if isBreak c then quotedLineEnds true t else .error .malformed

/-- The text up to a closing quotation mark or apostrophe, and the rest. Every step takes a code
point. -/
def quotedFrom (isDouble : Bool) : Nat → Text → Except Error (Text × Text)
  | 0, _ | _, [] => .error .malformed
  | steps + 1, c :: t =>
    let continued (piece rest : Text) : Except Error (Text × Text) :=
      (quotedFrom isDouble steps rest).map fun (more, rest) => (piece ++ more, rest)
    if isDouble && c = '"' then .ok ([], t)
    else if !isDouble && c = '\'' then
      match t with
      | d :: rest => if d = '\'' then continued [c] rest else .ok ([], t)
      | [] => .ok ([], t)
    else if isDouble && c = '\\' then do
      let (piece, rest) ← escaped t
      continued piece rest
    else if isBlankNext (c :: t) then do
      let (piece, rest) ← quotedGap (c :: t)
      continued piece rest
    else continued [c] t

/-- A quoted scalar behind its opening mark, and the rest. -/
def quoted (isDouble : Bool) (t : Text) : Except Error (Text × Text) :=
  quotedFrom isDouble (t.length + 1) t

end SongSheet.Yaml
