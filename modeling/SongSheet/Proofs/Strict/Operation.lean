import SongSheet.Pitch
import SongSheet.Proofs.Text.Numeral
import SongSheet.Proofs.Traversal
import SongSheet.Text.Digit

/-!
# Operations that may have no result

The readers are written so that nothing in them can go wrong but the sheet: a missing word is empty,
a code point that is no digit counts nothing, the longest of no times is zero. That hides a
question, whether a reader ever gets there. Here are the same operations without a way out: each has
its result or lapses, and a lapse is kept apart from what is wrong with a sheet (`Fault`).

A reader that is written with them, step by step in the order of the original, is *strict*. That a
strict reader does what the reader does says that every operation was guarded.
-/

set_option autoImplicit false

namespace SongSheet

/-- An operation that was used where it has no result. -/
inductive Lapse where
  /-- There is no item at an index. -/
  | item (index : Nat)
  /-- Something that was looked for is not there. -/
  | place
  /-- A text is no numeral. -/
  | numeral (t : Text)
  /-- A value has no fields. -/
  | fields
  /-- Of nothing there is no least and no greatest. -/
  | extremum
  /-- A division by zero. -/
  | division
  deriving DecidableEq

/-- Why a strict reader gives no score: the sheet is refused, or the reader lapsed. -/
inductive Fault where
  | refused (e : SheetError)
  | lapsed (l : Lapse)
  deriving DecidableEq

namespace Strict

variable {α β κ : Type}

/-! ## 1. Refusals -/

/-- A step that has nothing to lapse in. -/
def refusing (x : Except SheetError α) : Except Fault α := x.mapError .refused

/-- The sheet is refused. -/
def refuse (e : SheetError) : Except Fault α := .error (.refused e)

theorem refusing_bind (x : Except SheetError α) (f : α → Except SheetError β) :
    refusing (x >>= f) = refusing x >>= fun a => refusing (f a) := by
  cases x <;> rfl

/-- A walk whose steps have their results has them all. -/
theorem mapM_ok {f : α → Except Fault β} {g : α → β} {xs : List α}
    (h : ∀ x ∈ xs, f x = .ok (g x)) : xs.mapM f = .ok (xs.map g) := by
  have hall := mapM_map_eq_pure (f := f) (g := id) h
  rwa [List.map_id] at hall

/-- A walk whose steps have nothing to lapse in has nothing to lapse in. -/
theorem mapM_refusing {f : α → Except Fault β} {g : α → Except SheetError β} {xs : List α}
    (h : ∀ x ∈ xs, f x = refusing (g x)) : xs.mapM f = refusing (xs.mapM g) := by
  induction xs with
  | nil => rfl
  | cons x xs ih =>
    rw [List.mapM_cons, List.mapM_cons, h x (by simp), ih fun y hy => h y (by simp [hy]),
      refusing_bind]
    refine congrArg _ (funext fun y => ?_)
    rw [refusing_bind]
    rfl

/-! ## 2. Operations -/

/-- The item at an index. -/
def item (xs : List α) (index : Nat) : Except Fault α :=
  match xs[index]? with
  | some x => .ok x
  | none => .error (.lapsed (.item index))

theorem item_of_lt {xs : List α} {index : Nat} (h : index < xs.length) :
    item xs index = .ok xs[index] := by
  rw [item, List.getElem?_eq_getElem h]

theorem item_getD {xs : List α} {index : Nat} (h : index < xs.length) (default : α) :
    item xs index = .ok (xs.getD index default) := by
  rw [item_of_lt h, List.getD_eq_getElem?_getD, List.getElem?_eq_getElem h, Option.getD_some]

/-- The first index of an item. -/
def placeOf [DecidableEq α] (xs : List α) (x : α) : Except Fault Nat :=
  if x ∈ xs then .ok (xs.idxOf x) else .error (.lapsed .place)

theorem placeOf_of_mem [DecidableEq α] {xs : List α} {x : α} (h : x ∈ xs) :
    placeOf xs x = .ok (xs.idxOf x) :=
  if_pos h

/-- The value of a key. -/
def entry [DecidableEq κ] (entries : List (κ × α)) (key : κ) : Except Fault α :=
  match valueOf? key entries with
  | some value => .ok value
  | none => .error (.lapsed .place)

/-- The number that a numeral writes: decimal digits, and at least one. -/
def number (t : Text) : Except Fault Nat :=
  if t ≠ [] ∧ ∀ d ∈ t, d.isDigit = true then .ok (Text.readNat t)
  else .error (.lapsed (.numeral t))

theorem number_of_digits {t : Text} (hne : t ≠ []) (h : ∀ d ∈ t, d.isDigit = true) :
    number t = .ok (Text.readNat t) :=
  if_pos ⟨hne, h⟩

theorem number_digit {d : CodePoint} (h : d.isDigit = true) :
    number [d] = .ok (d.digit?.getD 0) := by
  rw [number_of_digits (List.cons_ne_nil _ _) (by simpa using h)]
  simp [Text.readNat]

/-- The number of an ASCII digit. -/
theorem number_of_between {d : CodePoint} (h : d.between '0' '9' = true) :
    number [d] = .ok (d.val - 48) := by
  rw [number_digit (CodePoint.isDigit_of_between h), CodePoint.digit?_of_between h,
    Option.getD_some]

/-- The digits that a text starts with are a numeral, if there are any. -/
theorem number_takeDigits {t : Text} (h : ¬(Text.takeDigits t).1.isEmpty = true) :
    number (Text.takeDigits t).1 = .ok (Text.readNat (Text.takeDigits t).1) := by
  refine number_of_digits (fun hnil => h (List.isEmpty_iff.mpr hnil)) ?_
  rw [Text.takeDigits, List.span_eq_takeWhile_dropWhile]
  exact fun d hd => List.mem_takeWhile_imp hd

/-- The fields of an object. -/
def fieldsOf : Json → Except Fault (List (Text × Json))
  | .object fields => .ok fields
  | _ => .error (.lapsed .fields)

/-- The greatest of some numbers. -/
def greatest (ns : List Nat) : Except Fault Nat :=
  match ns.max? with
  | some n => .ok n
  | none => .error (.lapsed .extremum)

/-- The least of some numbers. -/
def least (ns : List Nat) : Except Fault Nat :=
  match ns.min? with
  | some n => .ok n
  | none => .error (.lapsed .extremum)

/-- A quotient, rounded down. -/
def quotient (a b : Nat) : Except Fault Nat :=
  if b = 0 then .error (.lapsed .division) else .ok (a / b)

theorem quotient_of_pos {a b : Nat} (h : 0 < b) : quotient a b = .ok (a / b) :=
  if_neg (Nat.ne_of_gt h)

/-- The pitch of the natural with a number, from the table of the naturals. -/
def pitchOfDegree (degree : Int) : Except Fault Int := do
  let natural ← item Pitch.naturals (degree % 7).toNat
  return natural + degree / 7 * 12

/-- The table of the naturals has an entry for every place in the octave. -/
theorem pitchOfDegree_eq (degree : Int) : pitchOfDegree degree = .ok (Pitch.ofDegree degree) := by
  have hlt : (degree % 7).toNat < Pitch.naturals.length := by
    show (degree % 7).toNat < 7
    omega
  rw [pitchOfDegree, item_getD hlt 0, ok_bind]
  rfl

end Strict

end SongSheet
