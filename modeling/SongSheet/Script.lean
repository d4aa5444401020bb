import SongSheet.Encoding.Utf8
import SongSheet.ReadError
import SongSheet.Script.Statement
import SongSheet.Timeline

/-!
# Scripts

A timeline comes as a script for the lyre player: a call of its function with the song's name, the
timeline and the version of the timeline's form.

A script may hold more calls; the last one counts, but all have to be calls of the function with
literal arguments. The whole text has to be well formed before any statement is looked at.
-/

set_option autoImplicit false

namespace SongSheet.Script

/-- The player's function. -/
def functionName : Text := "parseGenshinImpactMusic"

/-! ## Reading -/

/-- The first surrogates of a text, if it holds any. -/
def surrogates? (t : Text) : Option ReadError :=
  let (before, rest) := t.span fun c => !c.isSurrogate
  rest.head?.map fun first =>
    .unencodable first before.length (rest.takeWhile CodePoint.isSurrogate).length

/-- The line of a position, counted from one, and the octets before it on its line. -/
def lineAndOctets (t : Text) (index : Nat) : Nat × Nat :=
  let before := t.take index
  (before.count ('\n' : CodePoint) + 1,
    ((before.reverse.takeWhile (· ≠ ('\n' : CodePoint))).map Utf8.width).foldr (· + ·) 0)

/-- A text whose lines end in line feeds, the last one too. Behind a carriage return and a line feed
at its very end there is one empty line more. -/
def closedLines (t : Text) : Text :=
  let lines := Text.unixLines t
  let isClosed : Bool :=
    match t.reverse with
    | last :: before => (last = '\n' && before.head? ≠ some ('\r' : CodePoint)) || last = '\r'
    | [] => false
  if isClosed then lines else lines ++ (['\n'] : Text)

/-- The arguments of a call of the function. -/
def callArguments? : Expr → Option (List Expr)
  | .call (.name id) arguments false => if id = functionName then some arguments else none
  | _ => none

/-- What the arguments of a call on a line stand for. -/
def readArguments (line : Nat) (arguments : List Expr) : Except ReadError (List Literal) :=
  match Literal.ofExprs arguments with
  | .ok values => .ok values
  | .error .notLiteral => .error (.sheet (.scriptArgument line))
  | .error (.unhashable container) => .error (.unhashable container)
  | .error .integerTooLarge => .error .integerTooLarge

/-- The arguments of every call of a script. -/
def readCalls (t : Text) : Except ReadError (List (List Literal)) :=
  match surrogates? t with
  | some e => .error e
  | none =>
    if t.any (·.val = 0) then .error .nullCharacter
    else
      let t := closedLines t
      match statements? t with
      | none => .error (.sheet .scriptForm)
      | some statements =>
        statements.mapM fun s =>
          let (line, column) := lineAndOctets t (t.length - s.left)
          match s.expr.bind callArguments? with
          | none => .error (.sheet (.scriptStatement line column))
          | some arguments => readArguments line arguments

/-- The score that a call with these arguments plays. -/
def ofArguments : List Literal → Except SheetError Score
  | [.text name, .text content, .int version] => Timeline.read name content version
  | [_, _, _] => .error .scriptTypes
  | arguments => .error (.scriptArity arguments.length)

/-- The score of a script. -/
def read (t : Text) : Except ReadError Score := do
  match (← readCalls t).getLast? with
  | none => .error (.sheet .scriptEmpty)
  | some arguments =>
    match ofArguments arguments with
    | .ok score => return score
    | .error e => .error (.sheet e)

/-! ## Writing -/

/-- The keys to write for: those that a text describes, and the player's own without one. -/
def layoutFor (keyLayout : Option Text) : Except SheetError KeyLayout :=
  match keyLayout with
  | none | some [] => .ok Timeline.playerLayout
  | some t => KeyLayout.read t

/-- A call of the function. -/
def call (name : Json) (content : Text) : Text :=
  let arguments : List Text :=
    [name.render .spaced, (Json.string content).render .spaced, Text.ofInt Timeline.version]
  functionName ++ Text.enclose '(' ')' (Text.join ", " arguments) ++ ("\n" : Text)

/-- The script of a score whose place on the keys of a layout is known. -/
def ofPlacement (layout : KeyLayout) (score : Score) (placement : Placement) : Text :=
  call score.name (Timeline.write (layout.keys.map Json.display) placement.strokes)

/-- The script of a score. -/
def write (keyLayout : Option Text) (score : Score) : Except SheetError Text := do
  let layout ← layoutFor keyLayout
  return ofPlacement layout score (← Placement.place score layout)

end SongSheet.Script
