import SongSheet.Json.Distinct
import SongSheet.Json.Writer
import SongSheet.Yaml.Binary
import SongSheet.Yaml.Moment

/-!
# Values

What a YAML text may hold. Its scalars are more than those of JSON, and any of them can be a key of
a table. Numbers and truth values that are worth the same are one key, so a table has `1`, `1.0` and
`true` only once.

Every JSON value is a YAML value (`Value.ofJson`). Of the others, `toJson?` says which JSON value
they are written as, if they are: the names in an object are texts, as which a key is then spelled.
-/

set_option autoImplicit false

namespace SongSheet.Yaml

/-- A value without parts. -/
inductive Scalar where
  | null
  | bool (value : Bool)
  | int (value : Int)
  | float (value : Binary64)
  | text (value : Text)
  | octets (value : List UInt8)
  | moment (value : Moment)
  deriving DecidableEq

namespace Scalar

instance : Coe Text Scalar := ⟨.text⟩

/-- The JSON value that a scalar is, if it is one. -/
def toJson? : Scalar → Option Json
  | null => some .null
  | bool b => some (.bool b)
  | int n => some (.int n)
  | float x => some (.float x)
  | text t => some (.string t)
  | octets _ | moment _ => none

/-- Whether two scalars are one key. -/
def isSameKey (a b : Scalar) : Bool :=
  match a.toJson?, b.toJson? with
  | some x, some y => Json.sameValue x y
  | none, none => a = b
  | _, _ => false

/-- A scalar stands for something unless it is null, false, a zero or empty. -/
def isSet : Scalar → Bool
  | octets bs => !bs.isEmpty
  | moment _ => true
  | s => (s.toJson?.map Json.isSet).getD true

/-- A scalar as it is shown. -/
def display : Scalar → Text
  | octets bs => showOctets bs
  | moment m => m.display
  | s => (s.toJson?.map Json.display).getD []

/-- The name that a key is spelled as in JSON, if there is one. -/
def name? : Scalar → Option Text
  | text t => some t
  | s => s.toJson?.map (Json.render .compact)

end Scalar

/-- A value. -/
inductive Value where
  | scalar (value : Scalar)
  | list (items : List Value)
  /-- Keys that come once each. -/
  | set (items : List Scalar)
  /-- Keys with their values, where a key may come twice. -/
  | pairs (items : List (Value × Value))
  | table (entries : List (Scalar × Value))

/-- The entries of a table. -/
abbrev Table := List (Scalar × Value)

namespace Table

/-- The value under a key. -/
def at? (key : Scalar) (entries : Table) : Option Value :=
  (List.find? (fun (k, _) => k.isSameKey key) entries).map (·.2)

/-- A table with a value under a key. A key that is there already stays as it is and takes the
value. -/
def put (key : Scalar) (value : Value) : Table → Table
  | [] => [(key, value)]
  | (k, v) :: rest => if k.isSameKey key then (k, value) :: rest else (k, v) :: put key value rest

/-- The table that entries come to one after the other. -/
def ofEntries (entries : List (Scalar × Value)) : Table :=
  entries.foldl (fun (done : Table) (key, value) => done.put key value) []

end Table

namespace Value

instance : Coe Text Value := ⟨fun t => .scalar t⟩

/-- Nothing at all. -/
def null : Value := .scalar .null

/-- A value stands for something unless it is null, false, a zero or empty. -/
def isSet : Value → Bool
  | scalar s => s.isSet
  | list items => !items.isEmpty
  | set items => !items.isEmpty
  | pairs items => !items.isEmpty
  | table entries => !entries.isEmpty

/-- The value itself if it stands for something, and a default otherwise. -/
def orElse (value default : Value) : Value := if value.isSet then value else default

/-- The text that a value is. -/
def text? : Value → Option Text
  | scalar (.text t) => some t
  | _ => none

mutual

/-- A JSON value as a value. -/
def ofJson : Json → Value
  | .null => null
  | .bool b => .scalar (.bool b)
  | .int n => .scalar (.int n)
  | .float x => .scalar (.float x)
  | .string t => .scalar (.text t)
  | .array items => .list (ofItems items)
  | .object fields => .table (ofFields fields)

/-- The items of a JSON array as values. -/
def ofItems : List Json → List Value
  | [] => []
  | x :: rest => ofJson x :: ofItems rest

/-- The fields of a JSON object as entries. -/
def ofFields : List (Text × Json) → Table
  | [] => []
  | (name, x) :: rest => (.text name, ofJson x) :: ofFields rest

end

mutual

/-- The JSON value that a value is written as, if it is. -/
def toJson? : Value → Option Json
  | .scalar s => s.toJson?
  | .list items => (jsonItems? items).map .array
  | .set _ => none
  | .pairs items => (jsonPairs? items).map .array
  | .table entries => (jsonFields? entries).map Json.ofFields

/-- The items of a list as JSON values. -/
def jsonItems? : List Value → Option (List Json)
  | [] => some []
  | x :: rest => do return (← x.toJson?) :: (← jsonItems? rest)

/-- Pairs as JSON arrays of two. -/
def jsonPairs? : List (Value × Value) → Option (List Json)
  | [] => some []
  | (x, y) :: rest => do return .array [← x.toJson?, ← y.toJson?] :: (← jsonPairs? rest)

/-- The entries of a table as fields. -/
def jsonFields? : List (Scalar × Value) → Option (List (Text × Json))
  | [] => some []
  | (key, x) :: rest => do return (← key.name?, ← x.toJson?) :: (← jsonFields? rest)

end

end Value

end SongSheet.Yaml
