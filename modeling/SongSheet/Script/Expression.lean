import SongSheet.Text

/-!
# Expressions of scripts

As much of an expression as its value as a literal needs, and as what may be assigned to. Everything
else, from comparisons to comprehensions, is `other`.
-/

set_option autoImplicit false

namespace SongSheet.Script

/-- An expression. -/
inductive Expr where
  /-- A name, in plain letters: however its letters are formed, it is the same name. -/
  | name (id : Text)
  | text (value : Text)
  | bytes
  | int (value : Nat)
  | float
  | imaginary
  /-- `True`, `False`, `None` or an ellipsis. -/
  | constant
  | tuple (items : List Expr)
  | list (items : List Expr)
  | set (items : List Expr)
  /-- A dictionary; an entry without a key spreads another one. -/
  | dict (entries : List (Option Expr × Expr))
  /-- A plus or minus sign before an operand. -/
  | signed (negative : Bool) (operand : Expr)
  /-- A sum or a difference. -/
  | sum (negative : Bool) (left right : Expr)
  | call (function : Expr) (arguments : List Expr) (named : Bool)
  /-- A starred expression. -/
  | starred (value : Expr)
  /-- An attribute or an item of something, which can be assigned to. -/
  | part
  /-- An assignment in an expression that has no brackets around it. -/
  | assigned
  | other
  deriving Inhabited

namespace Expr

/-- Names and parts, which can be assigned to one at a time. -/
def isSingleTarget : Expr → Bool
  | .name _ | .part => true
  | _ => false

mutual

/-- Whether an expression can be assigned to; `stars` says that parts of it may take what is left.
-/
def isTarget (stars : Bool) : Expr → Bool
  | .name _ | .part => true
  | .tuple items | .list items => areTargets stars items
  | .starred value => stars && isTarget stars value
  | _ => false

/-- Whether all expressions can be assigned to. -/
def areTargets (stars : Bool) : List Expr → Bool
  | [] => true
  | item :: items => isTarget stars item && areTargets stars items

end

end Expr

end SongSheet.Script
