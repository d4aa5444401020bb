import SongSheet.Script.Pattern

/-!
# Statements of scripts

`statements?` reads the tokens of a script as statements, or finds that they are no script. Only the
statements that are expressions are kept; of all others it matters that they are well formed and
where they begin.

The statements that hold other statements recurse through each other and through the lines of a
block; they take a number of steps as the expressions do.
-/

set_option autoImplicit false

namespace SongSheet.Script

/-- A statement of a script. -/
structure Statement where
  /-- The expression, if the statement is one and nothing else. -/
  expr : Option Expr
  /-- The length of the text from its beginning on. -/
  left : Nat

/-! ## Statements of one line -/

/-- What is left after the end of a line. -/
def lineEnd : Lexemes → Option Lexemes
  | ⟨.newline, _⟩ :: rest => some rest
  | _ => none

/-- The signs that combine an operator with an assignment. -/
def assignmentSigns : List String :=
  ["+=", "-=", "*=", "/=", "//=", "%=", "@=", "&=", "|=", "^=", ">>=", "<<=", "**="]

/-- What is left after a sign that combines an operator with an assignment. -/
def combinedAssignment? : Lexemes → Option Lexemes
  | ⟨.sign s, _⟩ :: rest => if s ∈ assignmentSigns then some rest else none
  | _ => none

/-- A name with points in it, and what is left. -/
def dottedName : Nat → Lexemes → Option Lexemes
  | 0, _ => none
  | steps + 1, ts => do
    let (_, ts) ← identifier ts
    match sign "." ts with
    | some rest => dottedName steps rest
    | none => return ts

/-- What is left after another name for something, if there is one. -/
def alias? (ts : Lexemes) : Option Lexemes :=
  match word "as" ts with
  | some rest => (identifier rest).map (·.2)
  | none => some ts

/-- What is left after names of modules. -/
def moduleNames : Nat → Lexemes → Option Lexemes
  | 0, _ => none
  | steps + 1, ts => do
    let ts ← alias? (← dottedName steps ts)
    match sign "," ts with
    | some rest => moduleNames steps rest
    | none => return ts

/-- What is left after names with commas between; a last comma needs a bracket after it. -/
def importedNames : Nat → Lexemes → Option Lexemes
  | 0, _ => none
  | steps + 1, ts => do
    let (_, ts) ← identifier ts
    let ts ← alias? ts
    match sign "," ts with
    | some rest => if (sign ")" rest).isSome then return rest else importedNames steps rest
    | none => return ts

/-- What is left after the points of a relative import: whether there were any. -/
def leadingPoints : Lexemes → Bool × Lexemes
  | ⟨.sign s, left⟩ :: rest =>
    if s = "." ∨ s = "..." then (true, (leadingPoints rest).2) else (false, ⟨.sign s, left⟩ :: rest)
  | ts => (false, ts)

/-- What is left after the names of an import. -/
def importList (steps : Nat) (ts : Lexemes) : Option Lexemes :=
  match sign "*" ts, sign "(" ts with
  | some rest, _ => some rest
  | none, some rest => (importedNames steps rest).bind (sign ")")
  | none, none =>
    (importedNames steps ts).bind fun rest => if (sign ")" rest).isSome then none else some rest

/-- What is left after names with commas between. -/
def nameList : Nat → Lexemes → Option Lexemes
  | 0, _ => none
  | steps + 1, ts => do
    let (_, ts) ← identifier ts
    match sign "," ts with
    | some rest => nameList steps rest
    | none => return ts

/-- A value that is assigned: expressions, or what a generator is sent. -/
def assignedValue (steps : Nat) (ts : Lexemes) : Option (Expr × Lexemes) :=
  if (word "yield" ts).isSome then (yielding steps ts).map (.other, ·) else expressions steps ts

/-- What is left after a chain of assignments, from behind its first sign. -/
def assignments : Nat → Expr → Lexemes → Option Lexemes
  | 0, _, _ => none
  | steps + 1, target, ts =>
    if target.isTarget true then do
      let (value, rest) ← assignedValue steps ts
      match sign "=" rest with
      | some rest => assignments steps value rest
      | none => return rest
    else none

/-- What is left after a type for a name or a part, and the value that it may take. -/
def typedTarget (steps : Nat) (target : Expr) (ts : Lexemes) : Option Lexemes :=
  if target.isSingleTarget then do
    let (_, rest) ← expression steps ts
    match sign "=" rest with
    | some rest => (assignedValue steps rest).map (·.2)
    | none => return rest
  else none

/-- A statement that starts with expressions: these, or an assignment to them. -/
def expressionStatement (steps : Nat) (ts : Lexemes) : Option (Option Expr × Lexemes) := do
  let (e, rest) ← expressions steps ts
  match sign "=" rest, sign ":" rest, combinedAssignment? rest with
  | some rest, _, _ => (assignments steps e rest).map (none, ·)
  | none, some rest, _ => (typedTarget steps e rest).map (none, ·)
  | none, none, some rest =>
    if e.isSingleTarget then (assignedValue steps rest).map fun (_, rest) => (none, rest) else none
  | none, none, none => return (some e, rest)

/-- What is left after expressions that may be missing. -/
def expressions? (steps : Nat) (ts : Lexemes) : Lexemes :=
  match expressions steps ts with
  | some (_, rest) => rest
  | none => ts

/-- What is left after the exception that a statement raises, and its cause. -/
def raised (steps : Nat) (ts : Lexemes) : Option Lexemes :=
  match expression steps ts with
  | none => some ts
  | some (_, rest) =>
    match word "from" rest with
    | some rest => (expression steps rest).map (·.2)
    | none => some rest

/-- What is left after a statement that a keyword begins; nothing is said where no such keyword
comes next. -/
def keywordStatement? (steps : Nat) : Lexemes → Option (Option Lexemes)
  | ⟨.name w, left⟩ :: rest =>
    if w = "pass" ∨ w = "break" ∨ w = "continue" then some (some rest)
    else if w = "return" then some (some (expressions? steps rest))
    else if w = "raise" then some (raised steps rest)
    else if w = "global" ∨ w = "nonlocal" then some (nameList steps rest)
    else if w = "del" then
      some ((expressions steps rest).bind fun (e, rest) =>
        if e.isTarget false then some rest else none)
    else if w = "assert" then
      some ((expression steps rest).bind fun (_, rest) =>
        match sign "," rest with
        | some rest => (expression steps rest).map (·.2)
        | none => some rest)
    else if w = "import" then some (moduleNames steps rest)
    else if w = "from" then
      let (relative, source) := leadingPoints rest
      some do
        let source ←
          if relative && (word "import" source).isSome then some source
          else dottedName steps source
        importList steps (← word "import" source)
    else if w = "yield" then some (yielding steps (⟨.name w, left⟩ :: rest))
    else none
  | _ => none

/-- Statements with semicolons between, up to the end of their line. -/
def lineStatements : Nat → Lexemes → Option (List Statement × Lexemes)
  | 0, _ => none
  | _ + 1, [] => none
  | steps + 1, t :: ts => do
    let (expr, rest) ←
      match keywordStatement? steps (t :: ts) with
      | some answer => answer.map (none, ·)
      | none => expressionStatement steps (t :: ts)
    match sign ";" rest with
    | none => return ([⟨expr, t.left⟩], ← lineEnd rest)
    | some rest =>
      match lineEnd rest with
      | some rest => return ([⟨expr, t.left⟩], rest)
      | none =>
        let (more, rest) ← lineStatements steps rest
        return (⟨expr, t.left⟩ :: more, rest)

/-! ## Statements that hold others -/

/-- What is left after one of the things that a block is run with, and its name. -/
def resource (steps : Nat) (ts : Lexemes) : Option Lexemes := do
  let (_, rest) ← expression steps ts
  match word "as" rest with
  | none => return rest
  | some rest =>
    let (target, rest) ← primary steps ((sign "*" rest).getD rest)
    if target.isTarget true then return rest else none

/-- What is left after things that a block is run with, up to the colon. -/
def resources : Nat → Lexemes → Option Lexemes
  | 0, _ => none
  | steps + 1, ts => do
    let rest ← resource steps ts
    match sign "," rest with
    | some rest => resources steps rest
    | none => return rest

/-- As `resources`, inside brackets; a comma may end them. -/
def bracketedResources : Nat → Lexemes → Option Lexemes
  | 0, _ => none
  | steps + 1, ts => do
    let rest ← resource steps ts
    match sign ")" rest with
    | some rest => return rest
    | none =>
      let rest ← sign "," rest
      match sign ")" rest with
      | some rest => return rest
      | none => bracketedResources steps rest

/-- What is left after all that a block is run with. -/
def withHead (steps : Nat) (ts : Lexemes) : Option Lexemes :=
  let bracketed := (sign "(" ts).bind (bracketedResources steps)
  match bracketed.filter fun rest => (sign ":" rest).isSome with
  | some rest => some rest
  | none => resources steps ts

/-- What kind of handlers may still come. All handlers of one statement are of one kind. -/
inductive HandlerStage where
  /-- None came yet. -/
  | first
  | plain
  /-- Handlers of groups of exceptions, which are marked by a star. -/
  | starred
  deriving DecidableEq, Repr

/-- The stage after a handler that has a star or not, if that may come. -/
def HandlerStage.next? (stage : HandlerStage) (starred : Bool) : Option HandlerStage :=
  let own : HandlerStage := if starred then .starred else .plain
  if stage = .first ∨ stage = own then some own else none

/-- The stage after the head of a handler, and what is left after the exceptions that it takes. -/
def handlerHead (steps : Nat) (stage : HandlerStage) (ts : Lexemes) :
    Option (HandlerStage × Lexemes) := do
  let stage ← stage.next? (sign "*" ts).isSome
  let ts := (sign "*" ts).getD ts
  if (sign ":" ts).isSome then if stage = .starred then none else return (stage, ts)
  else
    let (_, rest) ← expression steps ts
    return (stage, ← alias? rest)

/-- What is left after the head of a function. -/
def functionHead (steps : Nat) (ts : Lexemes) : Option Lexemes := do
  let (_, rest) ← identifier ts
  let rest ← parameters steps true {} (← sign "(" rest)
  let rest ← sign ")" rest
  match sign "->" rest with
  | some rest => (expression steps rest).map (·.2)
  | none => return rest

/-- What is left after the head of a class. -/
def classHead (steps : Nat) (ts : Lexemes) : Option Lexemes := do
  let (_, rest) ← identifier ts
  match sign "(" rest with
  | some rest => (arguments steps .placed rest).map fun (_, _, rest) => rest
  | none => return rest

/-- What is left after the head of a loop over items. -/
def forHead (steps : Nat) (ts : Lexemes) : Option Lexemes := do
  let (_, rest) ← targets steps ts
  let (_, rest) ← expressions steps (← word "in" rest)
  return rest

mutual

/-- What is left after a statement that holds others, from behind its first word; nothing is said
where the word begins no such statement. -/
def compound? : Nat → Text → Lexemes → Option (Option Lexemes)
  | 0, _, _ => none
  | steps + 1, w, ts =>
    if w = "if" then some (conditional steps ts)
    else if w = "while" then
      some do orElse steps (← block steps (← (namedExpression steps ts).map (·.2)))
    else if w = "for" then some do orElse steps (← block steps (← forHead steps ts))
    else if w = "with" then some do block steps (← withHead steps ts)
    else if w = "def" then some do block steps (← functionHead steps ts)
    else if w = "class" then some do block steps (← classHead steps ts)
    else if w = "try" then some do handlers steps .first (← block steps ts)
    else if w = "async" then
      match ts with
      | ⟨.name v, _⟩ :: rest =>
        if v = "def" ∨ v = "for" ∨ v = "with" then compound? steps v rest else some none
      | _ => some none
    else none

/-- What is left after a condition, what it guards, and its other branches. -/
def conditional : Nat → Lexemes → Option Lexemes
  | 0, _ => none
  | steps + 1, ts => do
    let (_, rest) ← namedExpression steps ts
    let rest ← block steps rest
    match word "elif" rest with
    | some rest => conditional steps rest
    | none => orElse steps rest

/-- What is left after the statements for the other case, if there are any. -/
def orElse : Nat → Lexemes → Option Lexemes
  | 0, _ => none
  | steps + 1, ts =>
    match word "else" ts with
    | some rest => block steps rest
    | none => some ts

/-- What is left after the handlers of what is tried. -/
def handlers : Nat → HandlerStage → Lexemes → Option Lexemes
  | 0, _, _ => none
  | steps + 1, stage, ts =>
    match word "except" ts, word "finally" ts with
    | some rest, _ => do
      let (stage, rest) ← handlerHead steps stage rest
      handlers steps stage (← block steps rest)
    | none, some rest => block steps rest
    | none, none =>
      if stage ≠ .first then do
        let rest ← orElse steps ts
        match word "finally" rest with
        | some rest => block steps rest
        | none => return rest
      else none

/-- What is left after a comparison with patterns, from behind its first word. That word is also a
name, so where this fails the statement may still be another one. -/
def comparison : Nat → Lexemes → Option Lexemes
  | 0, _ => none
  | steps + 1, ts => do
    match ← sign ":" (← subject steps ts) with
    | ⟨.newline, _⟩ :: ⟨.indent, _⟩ :: rest => cases steps rest
    | _ => none

/-- What is left after the patterns of a comparison with their blocks, and the end of them. -/
def cases : Nat → Lexemes → Option Lexemes
  | 0, _ => none
  | steps + 1, ts => do
    let rest ← block steps (← caseHead steps (← word "case" ts))
    match rest with
    | ⟨.dedent, _⟩ :: rest => return rest
    | rest => cases steps rest

/-- What is left after a colon and the statements behind it: on the same line, or on the lines that
are indented further. -/
def block : Nat → Lexemes → Option Lexemes
  | 0, _ => none
  | steps + 1, ts => do
    match ← sign ":" ts with
    | ⟨.newline, _⟩ :: ⟨.indent, _⟩ :: rest => blockStatements steps rest
    | rest => (lineStatements steps rest).map (·.2)

/-- What is left after the statements of a block and its end. -/
def blockStatements : Nat → Lexemes → Option Lexemes
  | 0, _ => none
  | steps + 1, ts => do
    let (_, rest) ← statement steps ts
    match rest with
    | ⟨.dedent, _⟩ :: rest => return rest
    | rest => blockStatements steps rest

/-- The statements of one line, or one statement that holds others. -/
def statement : Nat → Lexemes → Option (List Statement × Lexemes)
  | 0, _ => none
  | _ + 1, [] => none
  | steps + 1, t :: ts =>
    match t.token with
    | .name w =>
      match if w = "match" then comparison steps ts else none, compound? steps w ts with
      | some rest, _ => some ([⟨none, t.left⟩], rest)
      | none, some answer => answer.map fun rest => ([⟨none, t.left⟩], rest)
      | none, none => lineStatements steps (t :: ts)
    | .sign "@" => do
      let (_, rest) ← namedExpression steps ts
      decorated steps (← lineEnd rest)
    | _ => lineStatements steps (t :: ts)

/-- What may come after a decorator: another one, a function or a class. -/
def decorated : Nat → Lexemes → Option (List Statement × Lexemes)
  | 0, _ => none
  | steps + 1, ts =>
    if (sign "@" ts).isSome || (word "def" ts).isSome || (word "class" ts).isSome
        || ((word "async" ts).bind (word "def")).isSome then
      statement steps ts
    else none

end

/-- The statements that tokens make. -/
def statementsFrom : Nat → Lexemes → Option (List Statement)
  | _, [] => some []
  | 0, _ :: _ => none
  | steps + 1, t :: ts => do
    let (first, rest) ← statement steps (t :: ts)
    return first ++ (← statementsFrom steps rest)

/-- The most steps that a few tokens need without getting rid of one. -/
def stepsPerCodePoint : Nat := 64

/-- The statements of a text whose lines end in line feeds, the last one too. -/
def statements? (t : Text) : Option (List Statement) := do
  statementsFrom (stepsPerCodePoint * (t.length + 1)) (← lexemes t)

end SongSheet.Script
