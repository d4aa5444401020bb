import SongSheet.Text.Quoted
import SongSheet.Yaml.Error

/-!
# Octets in YAML

A scalar may stand for octets, which it writes in base 64: four characters for three octets. What is
no character of base 64 does not count. At the end equals signs take the place of missing
characters, and behind them nothing counts.
-/

set_option autoImplicit false

namespace SongSheet.Yaml

/-- The six bits of a character of base 64. -/
def sixBits? (c : CodePoint) : Option Nat :=
  if c.between 'A' 'Z' then some (c.val - 65)
  else if c.between 'a' 'z' then some (c.val - 97 + 26)
  else if c.between '0' '9' then some (c.val - 48 + 52)
  else if c = '+' then some 62
  else if c = '/' then some 63
  else none

/-- The octets that a text writes. `taken` characters of the present group have come, equals signs
after the last of them, and `left` are the bits of it that are in no octet yet. -/
def octetsFrom (taken signs left : Nat) : Text → Except Error (List UInt8)
  | [] => if taken = 0 then .ok [] else .error .malformed
  | c :: t =>
    if c = '=' then
      if 2 ≤ taken ∧ 4 ≤ taken + signs + 1 then .ok []
      else octetsFrom taken (if 2 ≤ taken then signs + 1 else signs) left t
    else
      match sixBits? c with
      | none => octetsFrom taken signs left t
      | some bits =>
        let whole := left * 64 + bits
        match taken with
        | 0 => octetsFrom 1 0 bits t
        | 1 => (octetsFrom 2 0 (whole % 16) t).map ((whole / 16).toUInt8 :: ·)
        | 2 => (octetsFrom 3 0 (whole % 4) t).map ((whole / 4).toUInt8 :: ·)
        | _ => (octetsFrom 0 0 0 t).map (whole.toUInt8 :: ·)

/-- The octets that a scalar is worth. -/
def octetsOf (t : Text) : Except Error (List UInt8) :=
  if t.all (·.val < 0x80) then octetsFrom 0 0 0 t else .error .malformed

/-- An octet as it is shown between marks of quotation. -/
def shownOctet (mark : CodePoint) (b : UInt8) : Text :=
  let c : CodePoint := .ofNat b.toNat
  if c = mark ∨ c = '\\' then ['\\', c]
  else if c = '\t' then "\\t"
  else if c = '\n' then "\\n"
  else if c = '\r' then "\\r"
  else if 0x20 ≤ c.val ∧ c.val < 0x7F then [c]
  else ("\\x" : Text) ++ Text.hex 2 c.val

/-- Octets as they are shown. -/
def showOctets (octets : List UInt8) : Text :=
  let mark : CodePoint := if octets.elem 0x27 && !octets.elem 0x22 then '"' else '\''
  ("b" : Text) ++ Text.enclose mark mark (octets.flatMap (shownOctet mark))

end SongSheet.Yaml
