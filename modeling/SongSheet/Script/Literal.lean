import SongSheet.Number.Binary64
import SongSheet.Script.Expression

/-!
# Literals of scripts

What an expression stands for when it is written out in full: strings, numbers and containers of
them. A call of the player asks only for texts and integers, so of all other values it is only kept
whether a set may hold them, as that can make a set or a dictionary fail.

Everything that would have to be computed is no literal, apart from a sign before a number and from
the sum of a real and an imaginary number.
-/

set_option autoImplicit false

namespace SongSheet.Script

/-- The containers that can change, which no set holds and no dictionary has as a key. -/
inductive Container where
  | list
  | dict
  | set
  deriving DecidableEq, Repr

/-- The word for a container. -/
def Container.word : Container → Text
  | .list => "list"
  | .dict => "dict"
  | .set => "set"

/-- What a literal stands for. -/
inductive Literal where
  | text (value : Text)
  | int (value : Int)
  /-- A value of another type that a set may hold. -/
  | other
  /-- A container that can change, or a tuple with such a container in it. -/
  | changeable (container : Container)
  deriving DecidableEq, Repr

/-- Why an expression stands for nothing. -/
inductive Literal.Failure where
  /-- The expression is not a literal. -/
  | notLiteral
  /-- A set or a dictionary would have to look up a container that can change. -/
  | unhashable (container : Container)
  /-- An integer is too large to be added to an imaginary number. -/
  | integerTooLarge
  deriving DecidableEq, Repr

namespace Literal

/-- A number as it is written, with its sign. -/
inductive Number where
  | int (value : Int)
  | float
  | imaginary
  deriving DecidableEq, Repr

/-- The number that an expression writes without a sign. -/
def unsigned? : Expr → Option Number
  | .int n => some (.int n)
  | .float => some .float
  | .imaginary => some .imaginary
  | _ => none

/-- The number that an expression writes with one sign or with none. -/
def signed? : Expr → Option Number
  | .signed negative operand =>
    (unsigned? operand).map fun
      | .int n => .int (if negative then -n else n)
      | .float => .float
      | .imaginary => .imaginary
  | e => unsigned? e

/-- A number as a literal. -/
def ofNumber : Number → Literal
  | .int n => .int n
  | .float | .imaginary => .other

/-- The sum of a real and an imaginary number. -/
def complex (real imaginary : Option Number) : Except Failure Literal :=
  match real, imaginary with
  | some (.int n), some .imaginary =>
    if Binary64.isBeyond n then .error .integerTooLarge else .ok .other
  | some .float, some .imaginary => .ok .other
  | _, _ => .error .notLiteral

/-- A value as a member of a set or as a key. -/
def asMember : Literal → Except Failure Unit
  | .changeable container => .error (.unhashable container)
  | _ => .ok ()

/-- A tuple: it can change as its first item that can. -/
def ofTuple (items : List Literal) : Literal :=
  (items.findSome? fun
    | .changeable container => some (.changeable container)
    | _ => none).getD .other

mutual

/-- What an expression stands for. -/
def ofExpr : Expr → Except Failure Literal
  | .text value => .ok (.text value)
  | .bytes | .constant => .ok .other
  | .tuple items => do return ofTuple (← ofExprs items)
  | .list items => do
    let _ ← ofExprs items
    return .changeable .list
  | .set items => do
    ofMembers items
    return .changeable .set
  | .dict entries => do
    ofEntries entries
    return .changeable .dict
  | .call (.name id) [] false =>
    if id = "set" then .ok (.changeable .set) else .error .notLiteral
  | .sum _ left right => complex (signed? left) (unsigned? right)
  | e =>
    match signed? e with
    | some n => .ok (ofNumber n)
    | none => .error .notLiteral

/-- What expressions stand for, in order. -/
def ofExprs : List Expr → Except Failure (List Literal)
  | [] => .ok []
  | e :: rest => do
    let first ← ofExpr e
    return first :: (← ofExprs rest)

/-- The members of a set, each looked up as it comes. -/
def ofMembers : List Expr → Except Failure Unit
  | [] => .ok ()
  | e :: rest => do
    asMember (← ofExpr e)
    ofMembers rest

/-- The entries of a dictionary: key and value first, then the key is looked up. -/
def ofEntries : List (Option Expr × Expr) → Except Failure Unit
  | [] => .ok ()
  | (none, _) :: _ => .error .notLiteral
  | (some key, value) :: rest => do
    let key ← ofExpr key
    let _ ← ofExpr value
    asMember key
    ofEntries rest

end

end Literal

end SongSheet.Script
