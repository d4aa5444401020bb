import SongSheet.Encoding.CodePage

/-!
# Punycode

The characters of ASCII in a text come first. Behind the last hyphen, digits of base 36 say which
other characters go where: each number counts the places and the code points that are passed over
since the character before it. The digits of a number end at a limit that a bias moves.

A host name is made of labels with points between; those in Punycode are marked, and the others are
ASCII.
-/

set_option autoImplicit false

namespace SongSheet

/-- The character of an octet of ASCII. -/
def asciiCharacter? (b : UInt8) : Option CodePoint :=
  if b.toNat < 0x80 then some (.ofNat b.toNat) else none

/-- The text of octets of ASCII. -/
def decodeAscii (octets : List UInt8) : Except DecodeError Text :=
  decodeSingle "ascii" "ordinal not in range(128)" asciiCharacter? 0 octets

namespace Punycode

/-- The digit of a letter or a figure. -/
def digit? (c : CodePoint) : Option Nat :=
  if c.between 'A' 'Z' then some (c.val - 0x41)
  else if c.between 'a' 'z' then some (c.val - 0x61)
  else if c.between '0' '9' then some (c.val - 0x30 + 26)
  else none

/-- The limit that ends a number in a place. -/
def limit (place bias : Nat) : Nat := min (max (36 * (place + 1) - bias) 1) 26

/-- A number at the front of a text and the rest. -/
def number? (bias place weight sum : Nat) : Text → Option (Nat × Text)
  | [] => none
  | c :: t => do
    let d ← digit? c
    let sum := sum + d * weight
    let most := limit place bias
    if d < most then return (sum, t) else number? bias (place + 1) (weight * (36 - most)) sum t

/-- The part of the bias that halving a number gives. -/
def halvings : Nat → Nat → Nat × Nat
  | 0, delta => (0, delta)
  | steps + 1, delta =>
    if 455 < delta then
      let (part, delta) := halvings steps (delta / 35)
      (part + 36, delta)
    else (0, delta)

/-- The bias after a number. -/
def adapt (delta : Nat) (isFirst : Bool) (length : Nat) : Nat :=
  let delta := if isFirst then delta / 700 else delta / 2
  let delta := delta + delta / length
  let (part, delta) := halvings delta delta
  part + 36 * delta / (delta + 38)

/-- The text after the numbers of another text: `next` is where the search for the next place goes
on, `char` the code point that it is in. -/
def insertFrom : Nat → Bool → Nat → Nat → Nat → Text → Text → Option Text
  | 0, _, _, _, _, base, _ | _, _, _, _, _, base, [] => some base
  | steps + 1, isFirst, bias, char, next, base, digits => do
    let (delta, digits) ← number? bias 0 1 0 digits
    let places := base.length + 1
    let char := char + (next + delta) / places
    let place := (next + delta) % places
    if char < 0x110000 then
      let base := base.take place ++ CodePoint.ofNat char :: base.drop place
      insertFrom steps false (adapt delta isFirst base.length) char (place + 1) base digits
    else none

/-- The text of Punycode. -/
def decode (octets : List UInt8) : Except DecodeFailure Text := do
  let behind := (octets.reverse.takeWhile (· ≠ 0x2D)).reverse
  let before := octets.take (octets.length - behind.length - 1)
  let base ← (decodeAscii before).mapError .octets
  let digits ← (decodeAscii behind).mapError .octets
  match insertFrom (digits.length + 1) true 72 0x80 0 base digits with
  | some t => .ok t
  | none => .error .form

end Punycode

namespace HostName

/-- The most characters in a label. -/
def labelLimit : Nat := 1024

/-- The text of a host name. Labels in Punycode are not taken. -/
def decode (octets : List UInt8) : Except DecodeFailure Text := do
  let t ← (decodeAscii octets).mapError .octets
  let isRefused (label : Text) : Bool :=
    labelLimit < label.length || (Text.after? "xn--" label).isSome
  if (Text.splitOn '.' t).any isRefused then .error .form else .ok t

end HostName

end SongSheet
