import SongSheet.Script.Literal
import SongSheet.SheetError

/-!
# Why a text gives no score

A reader refuses a text with a `SheetError`. A script can fail in other ways too: it may not be
encodable at all, and its arguments may be literals that no value belongs to. The registry keeps
these failures beside the refusals, as the reader next in line may still accept the text.
-/

set_option autoImplicit false

namespace SongSheet

/-- Why a reader gives no score. -/
inductive ReadError where
  /-- A refusal that every reader may give. -/
  | sheet (error : SheetError)
  /-- The text holds so many surrogates from an index on, the first of all, and so it is no text of
  a script. -/
  | unencodable (first : CodePoint) (index count : Nat)
  /-- The text holds a null character, which no text of a script does. -/
  | nullCharacter
  /-- An argument has a container that can change as a member of a set or as a key. -/
  | unhashable (container : Script.Container)
  /-- An argument adds an imaginary number to an integer that is too large. -/
  | integerTooLarge
  deriving DecidableEq

/-- The words for a failure. -/
def ReadError.message : ReadError → Text
  | .sheet e => e.message
  | .unencodable first index count =>
    if count = 1 then
      ("'utf-8' codec can't encode character '\\u" : Text) ++ Text.hex 4 first.val
        ++ ("' in position " : Text) ++ Text.ofNat index ++ (": surrogates not allowed" : Text)
    else
      ("'utf-8' codec can't encode characters in position " : Text) ++ Text.ofNat index
        ++ ("-" : Text) ++ Text.ofNat (index + count - 1) ++ (": surrogates not allowed" : Text)
  | .nullCharacter => "source code string cannot contain null bytes"
  | .unhashable container => ("unhashable type: '" : Text) ++ container.word ++ ("'" : Text)
  | .integerTooLarge => "int too large to convert to float"

end SongSheet
