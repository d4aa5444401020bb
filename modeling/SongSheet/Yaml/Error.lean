/-!
# Why a YAML text has no value

A text may not be YAML at all. Or a scalar in it is no value of its kind: the tag of a scalar says
what it has to be, whatever it looks like.
-/

set_option autoImplicit false

namespace SongSheet.Yaml

/-- Why a YAML text has no value. -/
inductive Error where
  /-- The text is not YAML, has several documents, or uses a tag that has no meaning here. -/
  | malformed
  /-- An escape names a number past the code points. -/
  | escapeRange
  /-- An escape names a number of more than 31 bits. -/
  | escapeSize
  /-- A scalar is no number. -/
  | number
  /-- A scalar that has to be a number is empty. -/
  | noNumber
  /-- A number in parts of sixty has too many of them. -/
  | numberSize
  /-- A scalar is no truth value. -/
  | truth
  /-- A scalar has not the form of a date. -/
  | dateForm
  /-- A scalar has the form of a date, but there is no such day or time. -/
  | dateRange
  /-- Something other than a scalar has to be a date. -/
  | dateKind
  deriving DecidableEq, Repr

end SongSheet.Yaml
