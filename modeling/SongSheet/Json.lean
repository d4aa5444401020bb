import SongSheet.Arrangement
import SongSheet.Number.Binary64
import SongSheet.Text

/-!
# JSON values

The values an event sheet or a key layout may hold. Integers are exact and apart from numbers with
a fraction or an exponent: `120` counts as an integer and `120.0` does not. The fields of an object
keep the order in which their names first came.
-/

set_option autoImplicit false

namespace SongSheet

/-- A JSON value. -/
inductive Json where
  | null
  | bool (value : Bool)
  | int (value : Int)
  | float (value : Binary64)
  | string (value : Text)
  | array (items : List Json)
  | object (fields : List (Text × Json))

namespace Json

instance : Inhabited Json := ⟨.null⟩

instance : Coe Text Json := ⟨.string⟩

mutual

/-- Whether two values are written with the same tree. -/
def decEq : (a b : Json) → Decidable (a = b)
  | .null, .null => .isTrue rfl
  | .bool a, .bool b => decidable_of_iff (a = b) (by simp)
  | .int a, .int b => decidable_of_iff (a = b) (by simp)
  | .float a, .float b => decidable_of_iff (a = b) (by simp)
  | .string a, .string b => decidable_of_iff (a = b) (by simp)
  | .array a, .array b =>
    match decEqItems a b with
    | .isTrue h => .isTrue (h ▸ rfl)
    | .isFalse h => .isFalse (by simpa using h)
  | .object a, .object b =>
    match decEqFields a b with
    | .isTrue h => .isTrue (h ▸ rfl)
    | .isFalse h => .isFalse (by simpa using h)
  | .null, .bool _ | .null, .int _ | .null, .float _ | .null, .string _ | .null, .array _
  | .null, .object _ | .bool _, .null | .bool _, .int _ | .bool _, .float _ | .bool _, .string _
  | .bool _, .array _ | .bool _, .object _ | .int _, .null | .int _, .bool _ | .int _, .float _
  | .int _, .string _ | .int _, .array _ | .int _, .object _ | .float _, .null | .float _, .bool _
  | .float _, .int _ | .float _, .string _ | .float _, .array _ | .float _, .object _
  | .string _, .null | .string _, .bool _ | .string _, .int _ | .string _, .float _
  | .string _, .array _ | .string _, .object _ | .array _, .null | .array _, .bool _
  | .array _, .int _ | .array _, .float _ | .array _, .string _ | .array _, .object _
  | .object _, .null | .object _, .bool _ | .object _, .int _ | .object _, .float _
  | .object _, .string _ | .object _, .array _ => .isFalse (by simp)

/-- `decEq` along two lists. -/
def decEqItems : (a b : List Json) → Decidable (a = b)
  | [], [] => .isTrue rfl
  | [], _ :: _ | _ :: _, [] => .isFalse (by simp)
  | x :: xs, y :: ys =>
    match decEq x y, decEqItems xs ys with
    | .isTrue h, .isTrue hs => .isTrue (by rw [h, hs])
    | .isFalse h, _ => .isFalse (by simp [h])
    | _, .isFalse hs => .isFalse (by simp [hs])

/-- `decEq` along the fields of two objects. -/
def decEqFields : (a b : List (Text × Json)) → Decidable (a = b)
  | [], [] => .isTrue rfl
  | [], _ :: _ | _ :: _, [] => .isFalse (by simp)
  | (k, x) :: xs, (l, y) :: ys =>
    match (inferInstance : Decidable (k = l)), decEq x y, decEqFields xs ys with
    | .isTrue hk, .isTrue h, .isTrue hs => .isTrue (by rw [hk, h, hs])
    | .isFalse hk, _, _ => .isFalse (by simp [hk])
    | _, .isFalse h, _ => .isFalse (by simp [h])
    | _, _, .isFalse hs => .isFalse (by simp [hs])

end

instance : DecidableEq Json := decEq

/-- A value stands for something unless it is null, false, a zero or empty. -/
def isSet : Json → Bool
  | .null => false
  | .bool b => b
  | .int n => n ≠ 0
  | .float x => !x.isZero
  | .string t => !t.isEmpty
  | .array items => !items.isEmpty
  | .object fields => !fields.isEmpty

/-- The value itself if it stands for something, and a default otherwise. -/
def orElse (value default : Json) : Json := if value.isSet then value else default

/-- The object that a sequence of fields writes, where a name may come more than once. -/
def ofFields (fields : List (Text × Json)) : Json := .object (assign fields)

/-- The field of that name in a list of fields. -/
def lookup? (name : Text) (fields : List (Text × Json)) : Option Json := valueOf? name fields

/-- The field of that name in an object, and null where there is none. -/
def field (name : Text) (fields : List (Text × Json)) : Json := (lookup? name fields).getD .null

/-- The integer that a value is. -/
def asInt? : Json → Option Int
  | .int n => some n
  | _ => none

end Json

end SongSheet
