import SongSheet.Json

/-!
# Values that compare equal

Numbers compare by what they are worth, so `1`, `1.0` and `true` are one value; no number is equal
to the one that is not a number. Lists and objects cannot be told apart this way.
-/

set_option autoImplicit false

namespace SongSheet.Json

/-- The worth of a value as an integer, if it has one. -/
def worth? : Json → Option Int
  | .int n => some n
  | .bool b => some (if b then 1 else 0)
  | .float x => x.toInt?
  | _ => none

/-- Whether two values compare equal. -/
def sameValue (a b : Json) : Bool :=
  match worth? a, worth? b with
  | some m, some n => m = n
  | none, none => a ≠ .float .nan && a = b
  | _, _ => false

/-- Whether a value can be compared at all. -/
def isComparable : Json → Bool
  | .array _ | .object _ => false
  | _ => true

/-- The first of all values that compare equal, in order; nothing if one cannot be compared. -/
def distinct? (values : List Json) : Option (List Json) :=
  if values.all isComparable then some (@List.eraseDups _ ⟨sameValue⟩ values) else none

end SongSheet.Json
