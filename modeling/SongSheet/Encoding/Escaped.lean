import SongSheet.Encoding.Basic
import SongSheet.Text.Name

/-!
# Escapes

Encodings in which octets are characters of Latin-1 and a backslash begins an escape: a code point
by its number or its name, or one of the usual controls. In the raw form only numbers can be given,
and only behind a backslash that no other one precedes.
-/

set_option autoImplicit false

namespace SongSheet

namespace Escaped

/-- The hexadecimal digits at the front of octets, up to a number of them. -/
def hexPart (limit : Nat) (octets : List UInt8) : Text :=
  ((octets.take limit).map fun (b : UInt8) => CodePoint.ofNat b.toNat).takeWhile
    (·.hexDigit?.isSome)

/-- An escape that was read: its text and its length, its first two octets included, or what is
wrong with it and for how many octets. -/
abbrev Read := Except (Text × Nat) (Text × Nat)

/-- A code point by its number in so many digits. -/
def number (width : Nat) (truncated illegal : Text) (rest : List UInt8) : Read :=
  let digits := hexPart width rest
  if digits.length < width then .error (truncated, digits.length + 2)
  else
    let n := Text.hexNumber digits
    if n < 0x110000 then .ok ([.ofNat n], width + 2) else .error (illegal, width + 2)

/-- What is wrong with a number that is too short. -/
def truncated (letter digits : Text) : Text :=
  ("truncated \\" : Text) ++ letter ++ digits ++ (" escape" : Text)

/-- A code point by its name, from behind the letter on. -/
def name (rest : List UInt8) : Read :=
  let malformed : Text := "malformed \\N character escape"
  match rest with
  | [] => .error (malformed, 2)
  | b :: rest =>
    if b ≠ 0x7B then .error (malformed, 2)
    else
      let name : Text := (rest.takeWhile (· ≠ 0x7D)).map fun (b : UInt8) => .ofNat b.toNat
      if name.length = rest.length then .error (malformed, name.length + 3)
      else if name.isEmpty then .error (malformed, 3)
      else
        match CodePoint.named? name with
        | some c => .ok ([c], name.length + 4)
        | none => .error ("unknown Unicode character name", name.length + 4)

/-- The octal digits at the front of octets, up to a number of them. -/
def octalPart (limit : Nat) (octets : List UInt8) : List UInt8 :=
  (octets.take limit).takeWhile (octetIn 0x30 0x37)
where
  /-- Whether an octet is between two numbers, ends included. -/
  octetIn (low high : Nat) (b : UInt8) : Bool := low ≤ b.toNat && b.toNat ≤ high

/-- The control that a letter behind a backslash stands for. -/
def control? (b : UInt8) : Option Text :=
  match b.toNat with
  | 0x0A => some []
  | 0x5C => some ['\\']
  | 0x27 => some ['\'']
  | 0x22 => some ['"']
  | 0x62 => some [.ofNat 0x08]
  | 0x66 => some [.ofNat 0x0C]
  | 0x74 => some ['\t']
  | 0x6E => some ['\n']
  | 0x72 => some ['\r']
  | 0x76 => some [.ofNat 0x0B]
  | 0x61 => some [.ofNat 0x07]
  | _ => none

/-- An escape behind its backslash. -/
def escape : List UInt8 → Read
  | [] => .error ("\\ at end of string", 1)
  | b :: rest =>
    match control? b with
    | some t => .ok (t, 2)
    | none =>
      let octal := octalPart 3 (b :: rest)
      if !octal.isEmpty then
        let n := octal.foldl (fun n (d : UInt8) => n * 8 + (d.toNat - 0x30)) 0
        .ok ([.ofNat n], octal.length + 1)
      else if b = 0x78 then number 2 (truncated "x" "XX") illegal rest
      else if b = 0x75 then number 4 (truncated "u" "XXXX") illegal rest
      else if b = 0x55 then number 8 (truncated "U" "XXXXXXXX") illegal rest
      else if b = 0x4E then name rest
      else .ok (['\\', .ofNat b.toNat], 2)
where
  /-- What is wrong with a number that no code point has. -/
  illegal : Text := "illegal Unicode character"

/-- An escape of the raw form behind its backslash. A backslash in front of another octet stands for
itself, and so does that octet. -/
def rawEscape : List UInt8 → Read
  | [] => .ok (['\\'], 1)
  | b :: rest =>
    if b = 0x75 then number 4 (truncated "u" "XXXX") tooLarge rest
    else if b = 0x55 then number 8 (truncated "U" "XXXXXXXX") tooLarge rest
    else .ok (['\\', .ofNat b.toNat], 2)
where
  /-- What is wrong with a number that no code point has. -/
  tooLarge : Text := "\\Uxxxxxxxx out of range"

/-- The text of octets from a position on. Every step takes an octet. -/
def decodeFrom (codec : Text) (escape : List UInt8 → Read) :
    Nat → Nat → List UInt8 → Except DecodeError Text
  | _, _, [] | 0, _, _ => .ok []
  | steps + 1, position, b :: rest =>
    if b = 0x5C then
      match escape rest with
      | .error (reason, count) => .error ⟨codec, b, position, count, reason⟩
      | .ok (t, count) =>
        (decodeFrom codec escape steps (position + count) ((b :: rest).drop count)).map (t ++ ·)
    else (decodeFrom codec escape steps (position + 1) rest).map (CodePoint.ofNat b.toNat :: ·)

end Escaped

/-- The two encodings with escapes. -/
def escapedEncodings : List Encoding :=
  [.ofDecoder "unicode_escape" [] fun octets =>
      Escaped.decodeFrom "unicodeescape" Escaped.escape octets.length 0 octets,
    .ofDecoder "raw_unicode_escape" [] fun octets =>
      Escaped.decodeFrom "rawunicodeescape" Escaped.rawEscape octets.length 0 octets]

end SongSheet
