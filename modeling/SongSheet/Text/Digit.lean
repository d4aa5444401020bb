import SongSheet.Text.Blank

/-!
# Decimal digits and numerals

Sheets count with the decimal digits of any script, so `١٢` is twelve. The decimal digits of
Unicode 14.0 come in runs of ten consecutive code points, from a zero to its nine;
`zeroDigits` lists where the runs start.

A numeral is read by its longest leading run of digits.
-/

set_option autoImplicit false

namespace SongSheet

/-- The digit zero of every script, in code point order. -/
def zeroDigits : List Nat :=
  [
    0x30, 0x660, 0x6f0, 0x7c0, 0x966, 0x9e6, 0xa66, 0xae6, 0xb66, 0xbe6, 0xc66, 0xce6, 0xd66,
    0xde6, 0xe50, 0xed0, 0xf20, 0x1040, 0x1090, 0x17e0, 0x1810, 0x1946, 0x19d0, 0x1a80, 0x1a90,
    0x1b50, 0x1bb0, 0x1c40, 0x1c50, 0xa620, 0xa8d0, 0xa900, 0xa9d0, 0xa9f0, 0xaa50, 0xabf0,
    0xff10, 0x104a0, 0x10d30, 0x11066, 0x110f0, 0x11136, 0x111d0, 0x112f0, 0x11450, 0x114d0,
    0x11650, 0x116c0, 0x11730, 0x118e0, 0x11950, 0x11c50, 0x11d50, 0x11da0, 0x16a60, 0x16ac0,
    0x16b50, 0x1d7ce, 0x1d7d8, 0x1d7e2, 0x1d7ec, 0x1d7f6, 0x1e140, 0x1e2f0, 0x1e950, 0x1fbf0]

/-- The value of a decimal digit of any script. -/
def CodePoint.digit? (c : CodePoint) : Option Nat :=
  match c.asciiDigit? with
  | some d => some d
  | none =>
    if c.val < 0x80 then none
    else (zeroDigits.find? fun start => start ≤ c.val && c.val < start + 10).map (c.val - ·)

/-- Whether a code point is a decimal digit of some script. -/
def CodePoint.isDigit (c : CodePoint) : Bool := c.digit?.isSome

namespace Text

/-- The number that a run of decimal digits writes. -/
def readNat (digits : Text) : Nat :=
  digits.foldl (fun n c => n * 10 + c.digit?.getD 0) 0

/-- A leading run of decimal digits and the rest. -/
def takeDigits (t : Text) : Text × Text := t.span CodePoint.isDigit

/-- The number that a text starts with: blanks, an optional sign, at least one digit. -/
def leadingInt? (t : Text) : Option Int :=
  match trimLeft t with
  | [] => none
  | c :: rest =>
    let signed := c = '+' ∨ c = '-'
    let digits := (takeDigits (if signed then rest else c :: rest)).1
    if digits.isEmpty then none
    else some (if c = '-' then -(readNat digits : Int) else (readNat digits : Int))

/-- Digits with single underscores between them, underscores left out; nothing where the text holds
anything else. -/
def spacedDigits? : Text → Option Text
  | [] => none
  | c :: t =>
    if !c.isDigit then none
    else
      match t with
      | [] => some [c]
      | d :: rest =>
        if d = '_' then (spacedDigits? rest).map (c :: ·)
        else (spacedDigits? (d :: rest)).map (c :: ·)

/-- A blank that may surround a number; the information separators may not. -/
def isMargin (c : CodePoint) : Bool := c.isBlank && !(0x1C ≤ c.val && c.val ≤ 0x1F)

/-- The number that a text writes and nothing else: margins, an optional sign, digits with single
underscores among them. -/
def wholeInt? (t : Text) : Option Int :=
  match ((t.dropWhile isMargin).reverse.dropWhile isMargin).reverse with
  | [] => none
  | c :: rest =>
    let signed := c = '+' ∨ c = '-'
    (spacedDigits? (if signed then rest else c :: rest)).map fun digits =>
      if c = '-' then -(readNat digits : Int) else (readNat digits : Int)

end Text

end SongSheet
