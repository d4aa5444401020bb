import SongSheet.Encoding.Utf8
import SongSheet.Text.Quoted

/-!
# Paths

A path in the form in which it is shown: no empty parts, no parts that are a single point. A part of
two points stays, as it depends on what is there where it leads.
-/

set_option autoImplicit false

namespace SongSheet

/-- The place of a file or a directory. -/
structure Path where
  /-- The slashes in front: none for a path from the working directory. -/
  root : Nat := 0
  parts : List Text := []
  deriving DecidableEq, Repr

namespace Path

/-- The path that a text names. More than two slashes in front are one. -/
def ofText (t : Text) : Path :=
  let slashes := (t.takeWhile (· = ('/' : CodePoint))).length
  { root := if slashes ≤ 2 then slashes else 1
    parts := (Text.splitOn '/' t).filter fun part => part ≠ [] && part ≠ "." }

/-- A path as it is shown. -/
def display (p : Path) : Text :=
  if p.root = 0 ∧ p.parts.isEmpty then "."
  else List.replicate p.root ('/' : CodePoint) ++ Text.join "/" p.parts

/-- The last part, if there is one. -/
def name (p : Path) : Text := p.parts.getLast?.getD []

/-- The directory that a path is in. -/
def parent (p : Path) : Path := { p with parts := p.parts.dropLast }

/-- A path inside a directory. -/
def child (p : Path) (name : Text) : Path := { p with parts := p.parts ++ [name] }

/-- The part that leads to the directory around. -/
def upward : Text := ".."

/-- Where a part leads from a directory whose own path has no needless `upward` parts. Nothing is
around the outermost directory. -/
def follow (here : Path) (part : Text) : Path :=
  if part ≠ upward then here.child part
  else
    match here.parts.getLast? with
    | none => if here.root = 0 then here.child upward else here
    | some last => if last = upward then here.child upward else here.parent

/-- The path is the working directory, the outermost one, or one around these. -/
def isAround (p : Path) : Bool := p.parts.all (· = upward)

/-- Why a path names nothing on any host. -/
inductive Fault where
  /-- A surrogate stands for no octet. -/
  | surrogate
  | nullCharacter
  deriving DecidableEq, Repr

/-- A surrogate that stands for an octet that is no text. -/
def standsForOctet (c : CodePoint) : Bool := 0xDC80 ≤ c.val && c.val ≤ 0xDCFF

/-- What is wrong with a path, if anything. -/
def fault? (p : Path) : Option Fault :=
  if p.parts.any (·.any fun c => c.isSurrogate && !standsForOctet c) then some .surrogate
  else if p.parts.any (·.any (·.val = 0)) then some .nullCharacter
  else none

/-- How many octets a text takes in a path. -/
def octetCount (t : Text) : Nat :=
  (t.map fun c => if standsForOctet c then 1 else Utf8.width c).foldr (· + ·) 0

end Path

end SongSheet
