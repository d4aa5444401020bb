import SongSheet.Script.Token
import SongSheet.Text.Name

/-!
# String literals of scripts

What a string stands for: escapes after a backslash become the code points they name, by number or
by name, and a backslash in front of anything else stays. Halves of a surrogate pair are two code
points here, unlike in JSON.
-/

set_option autoImplicit false

namespace SongSheet.Script

/-- A backslash and one more code point that are one code point, or none at the end of a line. -/
def plainEscape? (c : CodePoint) : Option Text :=
  if c = '\n' then some []
  else if c = '\\' ∨ c = '\'' ∨ c = '"' then some [c]
  else if c = 'a' then some [.ofNat 0x07]
  else if c = 'b' then some [.ofNat 0x08]
  else if c = 'f' then some [.ofNat 0x0C]
  else if c = 'n' then some ['\n']
  else if c = 'r' then some ['\r']
  else if c = 't' then some ['\t']
  else if c = 'v' then some [.ofNat 0x0B]
  else none

/-- How many hexadecimal digits follow a letter. -/
def hexWidth? (bytes : Bool) (c : CodePoint) : Option Nat :=
  if c = 'x' then some 2
  else if bytes then none
  else if c = 'u' then some 4
  else if c = 'U' then some 8
  else none

/-- What an octal digit counts. -/
def octalDigit? (c : CodePoint) : Option Nat :=
  if c.between '0' '7' then some (c.val - 48) else none

/-- Where the reading of a string stands. -/
inductive Escape where
  /-- No escape is open. -/
  | none
  /-- A backslash came just before. -/
  | opened
  /-- An octal number, with its value and how many digits may still come. -/
  | octal (value more : Nat)
  /-- A hexadecimal number, with its value and how many digits have to come. -/
  | hex (value more : Nat)
  /-- A name has to come, in braces. -/
  | naming
  /-- A name of a code point, as far as it was read. -/
  | name (read : Text)
  deriving DecidableEq, Repr

/-- A step of the reading of a string: the code points that are settled, and what is open after it;
nothing where an escape is broken. -/
def escapeStep (bytes : Bool) : Escape → CodePoint → Option (Text × Escape)
  | .none, c =>
    if c = '\\' then some ([], .opened)
    else if bytes && 0x80 ≤ c.val then none
    else some ([c], .none)
  | .opened, c =>
    match plainEscape? c, octalDigit? c, hexWidth? bytes c with
    | some t, _, _ => some (t, .none)
    | _, some d, _ => some ([], .octal d 2)
    | _, _, some width => some ([], .hex 0 width)
    | _, _, _ =>
      if c = 'N' ∧ !bytes then some ([], .naming)
      else if bytes && 0x80 ≤ c.val then none
      else some (['\\', c], .none)
  | .octal value more, c =>
    match octalDigit? c with
    | some d =>
      if more = 1 then some ([.ofNat (value * 8 + d)], .none)
      else some ([], .octal (value * 8 + d) (more - 1))
    | none =>
      if c = '\\' then some ([.ofNat value], .opened)
      else if bytes && 0x80 ≤ c.val then none
      else some ([.ofNat value, c], .none)
  | .hex value more, c =>
    match c.hexDigit? with
    | none => none
    | some d =>
      if more = 1 then
        if value * 16 + d < 0x110000 then some ([.ofNat (value * 16 + d)], .none) else none
      else some ([], .hex (value * 16 + d) (more - 1))
  | .naming, c => if c = '{' then some ([], .name []) else none
  | .name read, c =>
    if c = '}' then (CodePoint.named? read).map fun named => ([named], .none)
    else some ([], .name (read ++ [c]))

/-- The code points that a body stands for from a state on. -/
def unescapeFrom (bytes : Bool) (state : Escape) : Text → Option Text
  | [] =>
    match state with
    | .none => some []
    | .octal value _ => some [.ofNat value]
    | .opened => some ['\\']
    | .hex .. | .naming | .name _ => none
  | c :: t => do
    let (settled, next) ← escapeStep bytes state c
    return settled ++ (← unescapeFrom bytes next t)

/-- What a string stands for, its formatting apart. -/
def StringToken.value? (s : StringToken) : Option Text :=
  if s.raw then
    if s.bytes && s.body.any (0x80 ≤ ·.val) then none else some s.body
  else unescapeFrom s.bytes .none s.body

end SongSheet.Script
