import SongSheet.Text.Printable

/-!
# Quoted text

How a text is shown inside a list or a mapping: between apostrophes, or between quotation marks
when it holds an apostrophe and no quotation mark. The mark in use and the backslash take a
backslash; a code point that does not show is written by its number, in the shortest of three
widths.
-/

set_option autoImplicit false

namespace SongSheet

namespace Text

/-- The hexadecimal numeral of a number in lower case, filled with zeros to a width. -/
def hex (width n : Nat) : Text :=
  let digits := (Nat.toDigits 16 n).map CodePoint.ofChar
  List.replicate (width - digits.length) ('0' : CodePoint) ++ digits

/-- A code point between quotation marks of the given kind. -/
def quotedChar (mark c : CodePoint) : Text :=
  if c = mark ∨ c = '\\' then ['\\', c]
  else if c = '\t' then "\\t"
  else if c = '\n' then "\\n"
  else if c = '\r' then "\\r"
  else if c.isPrintable then [c]
  else if c.val < 0x100 then ("\\x" : Text) ++ hex 2 c.val
  else if c.val < 0x10000 then ("\\u" : Text) ++ hex 4 c.val
  else ("\\U" : Text) ++ hex 8 c.val

/-- A text between quotation marks. -/
def quoted (t : Text) : Text :=
  let mark : CodePoint :=
    if t.elem ('\'' : CodePoint) && !t.elem ('"' : CodePoint) then '"' else '\''
  enclose mark mark (t.flatMap (quotedChar mark))

end Text

end SongSheet
