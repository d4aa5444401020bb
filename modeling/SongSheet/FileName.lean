import SongSheet.Text

/-!
# File names

A sheet without a title is named after its file, and a converted sheet gets the name of the file it
came from with another extension.
-/

set_option autoImplicit false

namespace SongSheet.FileName

/-- Where the extension of a name starts: at the last compound extension if it has one, and at the
last point otherwise. -/
def extensionAt? (compound name : Text) : Option Nat :=
  match if compound.isEmpty then none else Text.lastIndexOf? compound name with
  | some i => some i
  | none => Text.lastIndexOf? "." name

/-- A name without its extension. A name that starts with its extension is kept whole. -/
def stem (compound name : Text) : Text :=
  match extensionAt? compound name with
  | some (i + 1) => name.take (i + 1)
  | _ => name

/-- The name of the sheet made from a file. -/
def converted (extension name : Text) : Text := stem ".yp.txt" name ++ extension

end SongSheet.FileName
