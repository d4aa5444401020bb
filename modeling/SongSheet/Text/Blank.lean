import SongSheet.Text

/-!
# Blanks

Which code points separate words. The set is Unicode's white space together with the four
information separators; the zero-width space and the byte order mark are not in it.
-/

set_option autoImplicit false

namespace SongSheet

/-- A code point that separates words. -/
def CodePoint.isBlank (c : CodePoint) : Bool :=
  (0x09 ≤ c.val && c.val ≤ 0x0D) || (0x1C ≤ c.val && c.val ≤ 0x20) || c.val = 0x85
    || c.val = 0xA0 || c.val = 0x1680 || (0x2000 ≤ c.val && c.val ≤ 0x200A) || c.val = 0x2028
    || c.val = 0x2029 || c.val = 0x202F || c.val = 0x205F || c.val = 0x3000

namespace Text

/-- A text without the blanks it starts with. -/
def trimLeft (t : Text) : Text := t.dropWhile CodePoint.isBlank

/-- A text without the blanks at its two ends. -/
def trim (t : Text) : Text := ((trimLeft t).reverse.dropWhile CodePoint.isBlank).reverse

/-- A text without any of its blanks. -/
def squeeze (t : Text) : Text := t.filter fun c => !c.isBlank

/-- The words of a text: its longest runs without a blank, in order. -/
def words : Text → List Text
  | [] => []
  | c :: t =>
    if c.isBlank then words t
    else
      match t, words t with
      | d :: _, word :: rest => if d.isBlank then [c] :: word :: rest else (c :: word) :: rest
      | _, rest => [c] :: rest

end Text

end SongSheet
