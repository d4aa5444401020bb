import SongSheet.Encoding.Basic

/-!
# UTF-7

ASCII stands for itself, but for the plus sign: behind it come other characters as units of UTF-16,
six bits to a character of base 64, up to a character that is none of base 64. A minus sign at the
end of them belongs to them. A plus sign is written with a minus sign behind it.
-/

set_option autoImplicit false

namespace SongSheet

namespace Utf7

/-- The six bits of a character of base 64. -/
def digit? (b : UInt8) : Option Nat :=
  let n := b.toNat
  if 0x41 ≤ n ∧ n ≤ 0x5A then some (n - 0x41)
  else if 0x61 ≤ n ∧ n ≤ 0x7A then some (n - 0x61 + 26)
  else if 0x30 ≤ n ∧ n ≤ 0x39 then some (n - 0x30 + 52)
  else if n = 0x2B then some 62
  else if n = 0x2F then some 63
  else none

/-- Where the reading stands in a section of base 64. -/
structure Section where
  /-- Where the section began, its plus sign included. -/
  start : Nat
  /-- Nothing has come behind the plus sign. -/
  isNew : Bool := true
  /-- Bits that make no unit yet. -/
  value : Nat := 0
  /-- How many of them there are. -/
  bits : Nat := 0
  /-- The first half of a surrogate pair. -/
  pending : Option CodePoint := none

/-- A section after six more bits, and the text that they settle. A half of a pair without the other
one stands for itself. -/
def Section.add (s : Section) (digit : Nat) : Text × Section :=
  let value := s.value * 64 + digit
  let bits := s.bits + 6
  let s := { s with isNew := false }
  if bits < 16 then ([], { s with value := value, bits := bits })
  else
    let left := Nat.pow 2 (bits - 16)
    let unit : CodePoint := .ofNat (value / left)
    let next : Section := { s with value := value % left, bits := bits - 16, pending := none }
    match s.pending with
    | some high =>
      if unit.isLowSurrogate then ([.joinSurrogates high unit], next)
      else if unit.isHighSurrogate then ([high], { next with pending := some unit })
      else ([high, unit], next)
    | none =>
      if unit.isHighSurrogate then ([], { next with pending := some unit }) else ([unit], next)

/-- What is wrong with a section that ends, if anything. -/
def Section.fault? (s : Section) : Option Text :=
  if 6 ≤ s.bits then some "partial character in shift sequence"
  else if s.value ≠ 0 then some "non-zero padding bits in shift sequence"
  else none

/-- The text of octets from a position on, inside of a section or not. -/
def decodeFrom (position : Nat) : Option Section → List UInt8 →
    Except DecodeError Text
  | none, [] => .ok []
  | some s, [] =>
    if s.pending.isSome || s.fault?.isSome then
      .error ⟨"utf7", 0x2B, s.start, position - s.start, "unterminated shift sequence"⟩
    else .ok []
  | none, b :: rest =>
    if b.toNat = 0x2B then decodeFrom (position + 1) (some { start := position }) rest
    else if b.toNat < 0x80 then
      (decodeFrom (position + 1) none rest).map (CodePoint.ofNat b.toNat :: ·)
    else .error ⟨"utf7", b, position, 1, "unexpected special character"⟩
  | some s, b :: rest =>
    match digit? b with
    | some digit =>
      let (settled, s) := s.add digit
      (decodeFrom (position + 1) (some s) rest).map (settled ++ ·)
    | none =>
      if s.isNew then
        if b.toNat = 0x2D then
          (decodeFrom (position + 1) none rest).map (CodePoint.ofNat 0x2B :: ·)
        else .error ⟨"utf7", 0x2B, s.start, 2, "ill-formed sequence"⟩
      else
        match s.fault? with
        | some reason => .error ⟨"utf7", 0x2B, s.start, position + 1 - s.start, reason⟩
        | none =>
          if b.toNat < 0x80 then
            let own : Text := if b.toNat = 0x2D then [] else [.ofNat b.toNat]
            (decodeFrom (position + 1) none rest).map (s.pending.toList ++ own ++ ·)
          else .error ⟨"utf7", b, position, 1, "unexpected special character"⟩

end Utf7

/-- UTF-7. -/
def utf7 : Encoding :=
  .ofDecoder "utf_7" ["u7", "unicode_1_1_utf_7", "utf7"] (Utf7.decodeFrom 0 none)

end SongSheet
