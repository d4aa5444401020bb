/-!
# Arranging items

Two arrangements that keep everything they are given: gathering by a key, which keeps the order in
which keys first came, and sorting, which keeps the order of items that compare equal.

Of entries, a key and a value each, `assign` keeps one to a key: it stands where the key first came
and has the value that came last.
-/

set_option autoImplicit false

namespace SongSheet

universe u v

variable {α : Type u}

/-- Items gathered by a key: the keys in the order they first came, the items of each in order. -/
def gatherBy {κ : Type v} [BEq κ] (key : α → κ) (items : List α) : List (κ × List α) :=
  (items.map key).eraseDups.map fun k => (k, items.filter (key · == k))

/-- Entries with one more: a key that is there already keeps its place and takes the new value. -/
def setEntry {κ : Type v} [DecidableEq κ] (key : κ) (value : α) : List (κ × α) → List (κ × α)
  | [] => [(key, value)]
  | (k, x) :: rest => if k = key then (k, value) :: rest else (k, x) :: setEntry key value rest

/-- The entries that a sequence of them comes to when each replaces those before it of its key. -/
def assign {κ : Type v} [DecidableEq κ] (entries : List (κ × α)) : List (κ × α) :=
  entries.foldl (fun done (key, value) => setEntry key value done) []

/-- The value of a key. -/
def valueOf? {κ : Type v} [DecidableEq κ] (key : κ) (entries : List (κ × α)) : Option α :=
  (entries.find? (·.1 = key)).map (·.2)

/-- A sorted list with one more item, in front of the first that it may precede. -/
def insertBy (le : α → α → Bool) (x : α) : List α → List α
  | [] => [x]
  | y :: ys => if le x y then x :: y :: ys else y :: insertBy le x ys

/-- The items in order; items that compare equal stay as they were. -/
def sortBy (le : α → α → Bool) (items : List α) : List α :=
  items.foldr (insertBy le) []

theorem insertBy_perm (le : α → α → Bool) (x : α) (ys : List α) :
    (insertBy le x ys).Perm (x :: ys) := by
  induction ys with
  | nil => exact .refl _
  | cons y ys ih =>
    simp only [insertBy]
    split
    · exact .refl _
    · exact (List.Perm.cons y ih).trans (.swap x y ys)

/-- Sorting keeps every item. -/
theorem sortBy_perm (le : α → α → Bool) (items : List α) : (sortBy le items).Perm items := by
  induction items with
  | nil => exact .refl _
  | cons x xs ih => exact (insertBy_perm le x _).trans (.cons x ih)

end SongSheet
