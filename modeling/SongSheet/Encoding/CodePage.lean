import SongSheet.Encoding.Basic

/-!
# Code pages

Encodings with one octet for every character.
-/

set_option autoImplicit false

namespace SongSheet

/-- The text of octets that stand for one character each. -/
def decodeSingle (codec reason : Text) (character? : UInt8 → Option CodePoint) (position : Nat) :
    List UInt8 → Except DecodeError Text
  | [] => .ok []
  | b :: rest =>
    match character? b with
    | some c => (decodeSingle codec reason character? (position + 1) rest).map (c :: ·)
    | none => .error ⟨codec, b, position, 1, reason⟩

/-- A code page. -/
structure CodePage where
  name : String
  aliases : List String
  /-- The characters of all octets, or of those past ASCII, row by row. An octet that has none has
  the replacement character here. -/
  rows : List String

namespace CodePage

/-- The character of an octet. -/
def character? (characters : Array CodePoint) (b : UInt8) : Option CodePoint :=
  if characters.size = 128 ∧ b.toNat < 128 then some (.ofNat b.toNat)
  else (characters[b.toNat + characters.size - 256]?).filter (·.val ≠ 0xFFFD)

/-- A code page as an encoding. -/
def encoding (p : CodePage) : Encoding :=
  .ofDecoder p.name p.aliases fun octets =>
    decodeSingle "charmap" "character maps to <undefined>"
      (character? (p.rows.flatMap Text.ofString).toArray) 0 octets

end CodePage

end SongSheet
