import SongSheet.Json
import SongSheet.Number.Shortest
import SongSheet.Text.Quoted

/-!
# Writing JSON values

`render` writes a value as JSON, in one of three styles: `compact` for an event sheet, `spaced` for
the arguments of a script, `ascii` where the reader at the other end knows ASCII only. `display`
shows a value to a person: a string bare, everything inside a list or an object quoted.
-/

set_option autoImplicit false

namespace SongSheet.Json

/-- What stands between the items and after the names, and whether code points outside ASCII are
written by their numbers. -/
structure Style where
  itemSeparator : Text
  nameSeparator : Text
  asciiOnly : Bool

/-- No blank anywhere. -/
def Style.compact : Style := ⟨",", ":", false⟩

/-- A space after every comma and colon. -/
def Style.spaced : Style := ⟨", ", ": ", false⟩

/-- No blank, and no code point outside ASCII. -/
def Style.ascii : Style := ⟨",", ":", true⟩

/-- Exponents -4 to 15 of the leading digit are written positionally, a whole number keeps its
`.0`, and an exponent has a sign and two digits. -/
def floatLayout : DecimalLayout := ⟨-4, 16, 2, "NaN", "Infinity"⟩

/-- As `floatLayout`, with the words shown to a person. -/
def displayLayout : DecimalLayout := { floatLayout with notANumber := "nan", infinity := "inf" }

/-- The escape of a code point by its number, as a surrogate pair past `0xFFFF`. -/
def numericEscape (c : CodePoint) : Text :=
  if c.val < 0x10000 then ("\\u" : Text) ++ Text.hex 4 c.val
  else
    ("\\u" : Text) ++ Text.hex 4 (0xD800 + (c.val - 0x10000) / 0x400)
      ++ ("\\u" : Text) ++ Text.hex 4 (0xDC00 + (c.val - 0x10000) % 0x400)

/-- A code point inside a JSON string. -/
def stringChar (asciiOnly : Bool) (c : CodePoint) : Text :=
  if c = '"' ∨ c = '\\' then ['\\', c]
  else if c = '\n' then "\\n"
  else if c = '\r' then "\\r"
  else if c = '\t' then "\\t"
  else if c.val = 0x0C then "\\f"
  else if c.val = 0x08 then "\\b"
  else if c.val < 0x20 ∨ (asciiOnly ∧ 0x7E < c.val) then numericEscape c
  else [c]

/-- A text as a JSON string. -/
def quote (asciiOnly : Bool) (t : Text) : Text :=
  Text.enclose '"' '"' (t.flatMap (stringChar asciiOnly))

mutual

/-- A value as JSON. -/
def render (style : Style) : Json → Text
  | .null => "null"
  | .bool b => if b then "true" else "false"
  | .int n => Text.ofInt n
  | .float x => x.render floatLayout
  | .string t => quote style.asciiOnly t
  | .array items =>
    Text.enclose '[' ']' (Text.join style.itemSeparator (renderItems style items))
  | .object fields =>
    Text.enclose '{' '}' (Text.join style.itemSeparator (renderFields style fields))

/-- The items of an array, each as JSON. -/
def renderItems (style : Style) : List Json → List Text
  | [] => []
  | item :: items => render style item :: renderItems style items

/-- The fields of an object, each as its name and its value. -/
def renderFields (style : Style) : List (Text × Json) → List Text
  | [] => []
  | (name, value) :: fields =>
    (quote style.asciiOnly name ++ style.nameSeparator ++ render style value)
      :: renderFields style fields

end

mutual

/-- A value inside a list or an object, as shown to a person. -/
def displayQuoted : Json → Text
  | .null => "None"
  | .bool b => if b then "True" else "False"
  | .int n => Text.ofInt n
  | .float x => x.render displayLayout
  | .string t => t.quoted
  | .array items => Text.enclose '[' ']' (Text.join ", " (displayItems items))
  | .object fields => Text.enclose '{' '}' (Text.join ", " (displayFields fields))

/-- The items of a list as shown to a person. -/
def displayItems : List Json → List Text
  | [] => []
  | item :: items => displayQuoted item :: displayItems items

/-- The fields of an object as shown to a person. -/
def displayFields : List (Text × Json) → List Text
  | [] => []
  | (name, value) :: fields =>
    (name.quoted ++ (": " : Text) ++ displayQuoted value) :: displayFields fields

end

/-- A value as shown to a person: a string bare, anything else as `displayQuoted`. -/
def display : Json → Text
  | .string t => t
  | value => displayQuoted value

end SongSheet.Json
