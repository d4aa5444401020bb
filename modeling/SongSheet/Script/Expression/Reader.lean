import SongSheet.Script.Expression
import SongSheet.Script.StringLiteral
import SongSheet.Text.Compatibility

/-!
# The grammar of expressions

How expressions are read from the tokens of a script. An operator binds as tightly as its level
says; `operation` with a level reads an operand and all operators that bind at least so tightly.

The functions recurse through each other. Each call takes one step of those it is given, and a few
steps for every code point of the script are enough, as only a bounded number of calls in a row can
leave the tokens as they are.
-/

set_option autoImplicit false

namespace SongSheet.Script

/-- What is left to read. -/
abbrev Lexemes := List Lexeme

/-- The words that are no names. -/
def keywords : List String :=
  ["False", "None", "True", "and", "as", "assert", "async", "await", "break", "class", "continue",
    "def", "del", "elif", "else", "except", "finally", "for", "from", "global", "if", "import",
    "in", "is", "lambda", "nonlocal", "not", "or", "pass", "raise", "return", "try", "while",
    "with", "yield"]

/-- Whether a word is no name. -/
def isKeyword (w : Text) : Bool := keywords.any fun (k : String) => w = Text.ofString k

/-- What is left after a sign. -/
def sign (s : String) : Lexemes → Option Lexemes
  | ⟨.sign s', _⟩ :: rest => if s = s' then some rest else none
  | _ => none

/-- What is left after a word. -/
def word (w : Text) : Lexemes → Option Lexemes
  | ⟨.name w', _⟩ :: rest => if w = w' then some rest else none
  | _ => none

/-- A name that is no keyword, and what is left. -/
def identifier : Lexemes → Option (Text × Lexemes)
  | ⟨.name id, _⟩ :: rest => if isKeyword id then none else some (id, rest)
  | _ => none

/-- An operator between two operands. -/
inductive Operator where
  | sum (negative : Bool)
  | other
  deriving DecidableEq, Repr

/-- The operand of two operands and what stands between. -/
def Operator.apply : Operator → Expr → Expr → Expr
  | .sum negative, left, right => .sum negative left right
  | .other, _, _ => .other

/-- The level of an operator by its sign. -/
def signLevel? (s : String) : Option Nat :=
  if s ∈ ["==", "!=", "<", "<=", ">", ">="] then some 4
  else if s = "|" then some 5
  else if s = "^" then some 6
  else if s = "&" then some 7
  else if s ∈ ["<<", ">>"] then some 8
  else if s ∈ ["+", "-"] then some 9
  else if s ∈ ["*", "/", "//", "%", "@"] then some 10
  else none

/-- The operator at the front of what is left: its level, and what is left after it. -/
def operator? : Lexemes → Option (Nat × Operator × Lexemes)
  | ⟨.sign s, _⟩ :: rest =>
    (signLevel? s).map fun level =>
      (level, if s = "+" then .sum false else if s = "-" then .sum true else .other, rest)
  | ⟨.name w, _⟩ :: rest =>
    if w = "or" then some (1, .other, rest)
    else if w = "and" then some (2, .other, rest)
    else if w = "in" then some (4, .other, rest)
    else if w = "is" then some (4, .other, (word "not" rest).getD rest)
    else if w = "not" then (word "in" rest).map fun rest => (4, .other, rest)
    else none
  | _ => none

/-- The strings at the front of what is left. -/
def strings : Lexemes → List StringToken × Lexemes
  | ⟨.string s, _⟩ :: rest =>
    let (more, rest) := strings rest
    (s :: more, rest)
  | rest => ([], rest)

/-- Strings next to each other as one, formatting apart; text and bytes do not mix. -/
def joinStrings (parts : List StringToken) : Option Expr := do
  let values ← (parts.filter (!·.formatted)).mapM StringToken.value?
  if parts.all (·.bytes) then return .bytes
  else if parts.any (·.bytes) then none
  else if parts.any (·.formatted) then return .other
  else return .text values.flatten

/-- A comprehension comes next. -/
def isClause (ts : Lexemes) : Bool := (word "for" ts).isSome || (word "async" ts).isSome

/-- Which parameters may still come. -/
structure ParameterStage where
  /-- Some parameter came before. -/
  any : Bool := false
  /-- A parameter with a default came, so the next ones need one. -/
  defaults : Bool := false
  /-- The mark that ends the parameters given by place alone came. -/
  slash : Bool := false
  /-- A star came, so the next parameters are given by name alone. -/
  star : Bool := false
  /-- The star came just before and had no name. -/
  bareStar : Bool := false

/-- Which arguments of a call may still come. -/
inductive ArgumentStage where
  /-- None came yet; a comprehension may be the only one. -/
  | first
  /-- Some came by place. -/
  | placed
  /-- Some came by name: no more by place, spreads apart. -/
  | named
  /-- A spread of named ones came: no more by place. -/
  | spread
  deriving DecidableEq, Repr

/-! ## Formatted strings -/

/-- The place inside a formatted string's expression. -/
structure FieldScan where
  /-- The quotation marks that are open. -/
  quote : Text := []
  /-- The brackets that are open, each as the one that closes it. -/
  opened : List CodePoint := []

/-- The end of an expression in a formatted string: its text, and what is left from the code point
that ends it. -/
def fieldExpression (scan : FieldScan) : Nat → Text → Option (Text × Text)
  | 0, _ => none
  | _ + 1, [] => none
  | steps + 1, c :: t =>
    let go (scan : FieldScan) (taken rest : Text) : Option (Text × Text) :=
      (fieldExpression scan steps rest).map fun (e, rest) => (taken ++ e, rest)
    if c = '\\' then none
    else if !scan.quote.isEmpty then
      match Text.after? scan.quote (c :: t) with
      | some rest => go { scan with quote := [] } scan.quote rest
      | none => go scan [c] t
    else if c = '\'' ∨ c = '"' then
      match Text.after? [c, c] t with
      | some rest => go { scan with quote := [c, c, c] } [c, c, c] rest
      | none => go { scan with quote := [c] } [c] t
    else if c = '#' then none
    else if c = '(' then go { scan with opened := ')' :: scan.opened } [c] t
    else if c = '[' then go { scan with opened := ']' :: scan.opened } [c] t
    else if c = '{' then go { scan with opened := '}' :: scan.opened } [c] t
    else
      let ends := c = '!' || c = ':' || c = '}' || c = '='
      match scan.opened with
      | [] =>
        if (c = '!' ∨ c = '=' ∨ c = '<' ∨ c = '>') ∧ t.head? = some '=' then
          go scan [c, '='] (t.drop 1)
        else if ends then some ([], c :: t)
        else if c = ')' ∨ c = ']' then none
        else go scan [c] t
      | close :: opened =>
        if c = ')' ∨ c = ']' ∨ c = '}' then
          if c = close then go { scan with opened } [c] t else none
        else go scan [c] t

/-- The literal part of a formatted string: its text, and what is left from a brace on. Doubled
braces are literal, except in the description of a format, and so are those around the name of a
code point. -/
def fieldLiteral (raw nested : Bool) : Nat → Text → Option (Text × Text)
  | 0, _ => none
  | _ + 1, [] => some ([], [])
  | steps + 1, c :: t =>
    let go (taken rest : Text) : Option (Text × Text) :=
      (fieldLiteral raw nested steps rest).map fun (e, rest) => (taken ++ e, rest)
    if c = '\\' ∧ !raw then
      match t with
      | [] => go [c] []
      | d :: u =>
        if d = '{' ∨ d = '}' then go [c] t
        else if d = 'N' ∧ u.head? = some '{' then
          let length := (u.takeWhile (· ≠ ('}' : CodePoint))).length + 1
          go (c :: d :: u.take length) (u.drop length)
        else go [c, d] u
    else if c = '{' ∨ c = '}' then
      if nested then some ([], c :: t)
      else if t.head? = some c then go [c] (t.drop 1)
      else if c = '}' then none
      else some ([], c :: t)
    else go [c] t

/-- What is left of a formatted string after the conversion in an expression, if there is one. -/
def fieldConversion? (t : Text) : Option Text :=
  match Text.after? "!" t with
  | none => some t
  | some [] => none
  | some (c :: rest) => if c = 's' ∨ c = 'r' ∨ c = 'a' then some rest else none

/-! ## Expressions -/

mutual

/-- An expression: an operation, a choice between two, or a function without a name. -/
def expression : Nat → Lexemes → Option (Expr × Lexemes)
  | 0, _ => none
  | steps + 1, ts =>
    match word "lambda" ts with
    | some rest => do
      let rest ← parameters steps false {} rest
      let (_, rest) ← expression steps (← sign ":" rest)
      return (.other, rest)
    | none => do
      let (e, rest) ← operation steps 1 ts
      match word "if" rest with
      | none => return (e, rest)
      | some rest =>
        let (_, rest) ← operation steps 1 rest
        let (_, rest) ← expression steps (← word "else" rest)
        return (.other, rest)

/-- An operand and the operators after it that bind at least as tightly as a level. -/
def operation : Nat → Nat → Lexemes → Option (Expr × Lexemes)
  | 0, _, _ => none
  | steps + 1, level, ts =>
    match word "not" ts with
    | some rest =>
      if level ≤ 3 then do
        let (_, rest) ← operation steps 3 rest
        operators steps level .other rest
      else none
    | none => do
      let (e, rest) ← operand steps ts
      operators steps level e rest

/-- The operators after an operand that bind at least as tightly as a level. -/
def operators : Nat → Nat → Expr → Lexemes → Option (Expr × Lexemes)
  | 0, _, _, _ => none
  | steps + 1, level, left, ts =>
    match operator? ts with
    | none => some (left, ts)
    | some (own, op, rest) =>
      if own < level then some (left, ts)
      else do
        let (right, rest) ← operation steps (own + 1) rest
        operators steps level (op.apply left right) rest

/-- An operand: signs, then something that may be raised to a power. -/
def operand : Nat → Lexemes → Option (Expr × Lexemes)
  | 0, _ => none
  | steps + 1, ts =>
    match sign "+" ts, sign "-" ts, sign "~" ts with
    | some rest, _, _ => do
      let (e, rest) ← operand steps rest
      return (.signed false e, rest)
    | none, some rest, _ => do
      let (e, rest) ← operand steps rest
      return (.signed true e, rest)
    | none, none, some rest => do
      let (_, rest) ← operand steps rest
      return (.other, rest)
    | none, none, none => do
      let (e, rest) ← primary steps ts
      match sign "**" rest with
      | none => return (e, rest)
      | some rest =>
        let (_, rest) ← operand steps rest
        return (.other, rest)

/-- A primary expression: an atom with its parts and calls. -/
def primary : Nat → Lexemes → Option (Expr × Lexemes)
  | 0, _ => none
  | steps + 1, ts =>
    match word "await" ts with
    | some rest => do
      let (e, rest) ← atom steps rest
      let (_, rest) ← trailers steps e rest
      return (.other, rest)
    | none => do
      let (e, rest) ← atom steps ts
      trailers steps e rest

/-- The parts and calls after an expression. -/
def trailers : Nat → Expr → Lexemes → Option (Expr × Lexemes)
  | 0, _, _ => none
  | steps + 1, e, ts =>
    match sign "." ts, sign "(" ts, sign "[" ts with
    | some rest, _, _ => do
      let (_, rest) ← identifier rest
      trailers steps .part rest
    | none, some rest, _ => do
      let (arguments, named, rest) ← arguments steps .first rest
      trailers steps (.call e arguments named) rest
    | none, none, some rest => do
      let rest ← slices steps rest
      trailers steps .part rest
    | none, none, none => some (e, ts)

/-- The arguments of a call up to its closing bracket, and whether some are named. -/
def arguments : Nat → ArgumentStage → Lexemes → Option (List Expr × Bool × Lexemes)
  | 0, _, _ => none
  | steps + 1, stage, ts =>
    match sign ")" ts with
    | some rest => some ([], false, rest)
    | none =>
      match sign "**" ts, sign "*" ts, identifier ts with
      | some rest, _, _ => do
        let (_, rest) ← expression steps rest
        let (more, _, rest) ← moreArguments steps .spread rest
        return (more, true, rest)
      | none, some rest, _ =>
        if stage = .spread then none
        else do
          let (e, rest) ← expression steps rest
          let (more, named, rest) ←
            moreArguments steps (if stage = .first then .placed else stage) rest
          return (.starred e :: more, named, rest)
      | none, none, found => do
        match found.bind fun (_, rest) => sign "=" rest with
        | some rest =>
          let (_, rest) ← expression steps rest
          let (more, _, rest) ←
            moreArguments steps (if stage = .spread then .spread else .named) rest
          return (more, true, rest)
        | none =>
          if stage = .first ∨ stage = .placed then
            let (e, rest) ← namedExpression steps ts
            if isClause rest then
              if stage = .first then
                let (e, rest) ← comprehension steps e ")" rest
                return ([e], false, rest)
              else none
            else
              let (more, named, rest) ← moreArguments steps .placed rest
              return (e :: more, named, rest)
          else none

/-- The arguments after one of them: none, or a comma and perhaps more. -/
def moreArguments : Nat → ArgumentStage → Lexemes → Option (List Expr × Bool × Lexemes)
  | 0, _, _ => none
  | steps + 1, stage, ts =>
    match sign ")" ts with
    | some rest => some ([], false, rest)
    | none => do
      let rest ← sign "," ts
      arguments steps stage rest

/-- The index of a part up to its closing bracket. -/
def slices : Nat → Lexemes → Option Lexemes
  | 0, _ => none
  | steps + 1, ts => do
    let rest ← slice steps ts
    match sign "]" rest with
    | some rest => return rest
    | none =>
      let rest ← sign "," rest
      match sign "]" rest with
      | some rest => return rest
      | none => slices steps rest

/-- One index, or a range with up to two colons. -/
def slice : Nat → Lexemes → Option Lexemes
  | 0, _ => none
  | steps + 1, ts =>
    match sign "*" ts with
    | some rest => (expression steps rest).map (·.2)
    | none => do
      let (e, rest) ← if (sign ":" ts).isSome then some (.other, ts) else namedExpression steps ts
      match sign ":" rest, e with
      | none, _ => return rest
      | some _, .assigned => none
      | some rest, _ =>
        let rest ← sliceEnd steps rest
        match sign ":" rest with
        | none => return rest
        | some rest => sliceEnd steps rest

/-- The end of a range, if it is given. -/
def sliceEnd : Nat → Lexemes → Option Lexemes
  | 0, _ => none
  | steps + 1, ts =>
    if (sign ":" ts).isSome || (sign "," ts).isSome || (sign "]" ts).isSome then some ts
    else (expression steps ts).map (·.2)

/-- An expression that may assign its value to a name. -/
def namedExpression : Nat → Lexemes → Option (Expr × Lexemes)
  | 0, _ => none
  | steps + 1, ts =>
    match (identifier ts).bind fun (_, rest) => sign ":=" rest with
    | some rest => do
      let (_, rest) ← expression steps rest
      return (.assigned, rest)
    | none => expression steps ts

/-- An item of a list: starred, or an expression. -/
def item : Nat → Lexemes → Option (Expr × Lexemes)
  | 0, _ => none
  | steps + 1, ts =>
    match sign "*" ts with
    | some rest => do
      let (e, rest) ← operation steps 5 rest
      return (.starred e, rest)
    | none => namedExpression steps ts

/-- The items up to a closing bracket; a comma may end them. -/
def items : Nat → String → Lexemes → Option (List Expr × Lexemes)
  | 0, _, _ => none
  | steps + 1, close, ts =>
    match sign close ts with
    | some rest => some ([], rest)
    | none => do
      let (e, rest) ← item steps ts
      match sign close rest with
      | some rest => return ([e], rest)
      | none =>
        let (more, rest) ← items steps close (← sign "," rest)
        return (e :: more, rest)

/-- What stands for itself: a name, a number, strings, or something in brackets. -/
def atom : Nat → Lexemes → Option (Expr × Lexemes)
  | 0, _ => none
  | _ + 1, [] => none
  | steps + 1, ⟨token, left⟩ :: rest =>
    match token with
    | .name id =>
      if id = "True" ∨ id = "False" ∨ id = "None" then some (.constant, rest)
      else if isKeyword id then none
      else some (.name (Text.plainLetters id), rest)
    | .int value => some (.int value, rest)
    | .float => some (.float, rest)
    | .imaginary => some (.imaginary, rest)
    | .string _ => do
      let (parts, rest) := strings (⟨token, left⟩ :: rest)
      let e ← joinStrings parts
      if parts.all fun s => !s.formatted || isFormatted steps s.raw s.body then return (e, rest)
      else none
    | .sign s =>
      if s = "..." then some (.constant, rest)
      else if s = "(" then group steps rest
      else if s = "[" then do
        match sign "]" rest with
        | some rest => return (.list [], rest)
        | none =>
          let (e, rest) ← item steps rest
          if isClause rest then comprehension steps e "]" rest
          else
            let (items, rest) ← itemsAfter steps e "]" rest
            return (.list items, rest)
      else if s = "\x7b" then braces steps rest
      else none
    | .newline | .indent | .dedent => none

/-- The rest of the items after the first of them. -/
def itemsAfter : Nat → Expr → String → Lexemes → Option (List Expr × Lexemes)
  | 0, _, _, _ => none
  | steps + 1, first, close, ts =>
    match sign close ts with
    | some rest => some ([first], rest)
    | none => do
      let (more, rest) ← items steps close (← sign "," ts)
      return (first :: more, rest)

/-- A comprehension over an item up to its closing bracket. -/
def comprehension : Nat → Expr → String → Lexemes → Option (Expr × Lexemes)
  | 0, _, _, _ => none
  | steps + 1, e, close, ts =>
    match e with
    | .starred _ => none
    | _ => do
      let rest ← clauses steps ts
      let rest ← sign close rest
      return (.other, rest)

/-- What follows an opening parenthesis. -/
def group : Nat → Lexemes → Option (Expr × Lexemes)
  | 0, _ => none
  | steps + 1, ts =>
    match sign ")" ts with
    | some rest => some (.tuple [], rest)
    | none =>
      if (word "yield" ts).isSome then do
        let rest ← yielding steps ts
        let rest ← sign ")" rest
        return (.other, rest)
      else do
        let (e, rest) ← item steps ts
        if isClause rest then comprehension steps e ")" rest
        else
          match sign ")" rest, e with
          | some _, .starred _ => none
          | some rest, .assigned => return (.other, rest)
          | some rest, _ => return (e, rest)
          | none, _ =>
            let (items, rest) ← itemsAfter steps e ")" rest
            return (.tuple items, rest)

/-- What follows an opening brace. -/
def braces : Nat → Lexemes → Option (Expr × Lexemes)
  | 0, _ => none
  | steps + 1, ts =>
    match sign "\x7d" ts, sign "**" ts with
    | some rest, _ => some (.dict [], rest)
    | none, some _ => do
      let (entries, rest) ← entries steps ts
      return (.dict entries, rest)
    | none, none => do
      let (e, rest) ← item steps ts
      match sign ":" rest, e with
      | some _, .starred _ | some _, .assigned => none
      | some rest, _ =>
        let (value, rest) ← expression steps rest
        if isClause rest then comprehension steps e "\x7d" rest
        else
          let (more, rest) ← entriesAfter steps rest
          return (.dict ((some e, value) :: more), rest)
      | none, _ =>
        if isClause rest then comprehension steps e "\x7d" rest
        else
          let (items, rest) ← itemsAfter steps e "\x7d" rest
          return (.set items, rest)

/-- The entries of a dictionary up to its closing brace. -/
def entries : Nat → Lexemes → Option (List (Option Expr × Expr) × Lexemes)
  | 0, _ => none
  | steps + 1, ts =>
    match sign "\x7d" ts, sign "**" ts with
    | some rest, _ => some ([], rest)
    | none, some rest => do
      let (value, rest) ← operation steps 5 rest
      let (more, rest) ← entriesAfter steps rest
      return ((none, value) :: more, rest)
    | none, none => do
      let (key, rest) ← expression steps ts
      let (value, rest) ← expression steps (← sign ":" rest)
      let (more, rest) ← entriesAfter steps rest
      return ((some key, value) :: more, rest)

/-- The entries after one of them. -/
def entriesAfter : Nat → Lexemes → Option (List (Option Expr × Expr) × Lexemes)
  | 0, _ => none
  | steps + 1, ts =>
    match sign "\x7d" ts with
    | some rest => some ([], rest)
    | none => do entries steps (← sign "," ts)

/-- The clauses of a comprehension. -/
def clauses : Nat → Lexemes → Option Lexemes
  | 0, _ => none
  | steps + 1, ts => do
    let rest ← word "for" ((word "async" ts).getD ts)
    let (_, rest) ← targets steps rest
    let (_, rest) ← operation steps 1 (← word "in" rest)
    let rest ← conditions steps rest
    if isClause rest then clauses steps rest else return rest

/-- The conditions of a clause. -/
def conditions : Nat → Lexemes → Option Lexemes
  | 0, _ => none
  | steps + 1, ts =>
    match word "if" ts with
    | none => some ts
    | some rest => do
      let (_, rest) ← operation steps 1 rest
      conditions steps rest

/-- Targets with commas between. -/
def targets : Nat → Lexemes → Option (List Expr × Lexemes)
  | 0, _ => none
  | steps + 1, ts => do
    let (e, rest) ← primary steps ((sign "*" ts).getD ts)
    if Expr.isTarget true e then
      match sign "," rest with
      | none => return ([e], rest)
      | some rest =>
        match targets steps rest with
        | some (more, rest) => return (e :: more, rest)
        | none => return ([e], rest)
    else none

/-- The parameters of a function; `annotated` says that they may have types. -/
def parameters : Nat → Bool → ParameterStage → Lexemes → Option Lexemes
  | 0, _, _, _ => none
  | steps + 1, annotated, stage, ts =>
    let next (stage : ParameterStage) (rest : Lexemes) : Option Lexemes :=
      match sign "," rest with
      | some rest => parameters steps annotated { stage with any := true } rest
      | none => if stage.bareStar then none else some rest
    let typed (rest : Lexemes) : Option Lexemes :=
      match if annotated then sign ":" rest else none with
      | some rest => (expression steps rest).map (·.2)
      | none => some rest
    match sign "/" ts, sign "**" ts, sign "*" ts, identifier ts with
    | some rest, _, _, _ =>
      if stage.any && !stage.slash && !stage.star then next { stage with slash := true } rest
      else none
    | _, some rest, _, _ => do
      if stage.bareStar then none
      else
        let (_, rest) ← identifier rest
        let rest ← typed rest
        return (sign "," rest).getD rest
    | _, _, some rest, _ =>
      if stage.star then none
      else
        match identifier rest with
        | some (_, rest) => do
          let rest ←
            match if annotated then sign ":" rest else none with
            | some rest => (starExpression steps rest).map (·.2)
            | none => some rest
          next { stage with star := true } rest
        | none => next { stage with star := true, bareStar := true } rest
    | _, _, _, some (_, rest) => do
      let rest ← typed rest
      let stage := { stage with bareStar := false }
      match sign "=" rest with
      | some rest =>
        let (_, rest) ← expression steps rest
        next { stage with defaults := true } rest
      | none => if stage.defaults && !stage.star then none else next stage rest
    | none, none, none, none => if stage.bareStar then none else some ts

/-- What a generator hands out. -/
def yielding : Nat → Lexemes → Option Lexemes
  | 0, _ => none
  | steps + 1, ts => do
    let rest ← word "yield" ts
    match word "from" rest with
    | some rest => (expression steps rest).map (·.2)
    | none =>
      match expressions steps rest with
      | some (_, rest) => return rest
      | none => return rest

/-- Expressions with commas between, which make a tuple. -/
def expressions : Nat → Lexemes → Option (Expr × Lexemes)
  | 0, _ => none
  | steps + 1, ts => do
    let (e, rest) ← starExpression steps ts
    if (sign "," rest).isSome then
      let (more, rest) ← moreExpressions steps rest
      return (.tuple (e :: more), rest)
    else return (e, rest)

/-- The expressions after one of them; a comma may end them. -/
def moreExpressions : Nat → Lexemes → Option (List Expr × Lexemes)
  | 0, _ => none
  | steps + 1, ts =>
    match sign "," ts with
    | none => some ([], ts)
    | some rest =>
      match starExpression steps rest with
      | none => some ([], rest)
      | some (e, rest) => do
        let (more, rest) ← moreExpressions steps rest
        return (e :: more, rest)

/-- An expression that may be starred. -/
def starExpression : Nat → Lexemes → Option (Expr × Lexemes)
  | 0, _ => none
  | steps + 1, ts =>
    match sign "*" ts with
    | some rest => do
      let (e, rest) ← operation steps 5 rest
      return (.starred e, rest)
    | none => expression steps ts

/-- Whether the body of a formatted string is well formed: its literal parts, and the expressions in
its braces with their formats, which may have braces of their own. -/
def isFormatted : Nat → Bool → Text → Bool
  | 0, _, _ => false
  | steps + 1, raw, body => (formattedPart steps raw 0 body).any (·.isEmpty)

/-- What is left of a formatted string after its parts: nothing, or what follows the description of
a format from its closing brace on. -/
def formattedPart : Nat → Bool → Nat → Text → Option Text
  | 0, _, _, _ => none
  | steps + 1, raw, depth, body => do
    let (literal, rest) ← fieldLiteral raw (depth ≠ 0) (body.length + 1) body
    let _ ← if raw then some literal else unescapeFrom false .none literal
    match Text.after? "\x7b" rest with
    | none => return rest
    | some rest =>
      if 2 ≤ depth then none
      else
        let (source, rest) ← fieldExpression {} (rest.length + 1) rest
        if source.all fun c => isLineBlank c || c = '\n' then none
        else
          let tokens ← lexemes (Text.enclose '(' ')' source ++ ("\n" : Text))
          let (_, after) ← expressions steps tokens
          if after.length ≠ 1 then none
          else
            let rest : Text :=
              match Text.after? "=" rest with
              | some rest => rest.dropWhile fun c => isLineBlank c || c = '\n' || c.val = 0x0B
              | none => rest
            let rest ← fieldConversion? rest
            let rest ←
              match Text.after? ":" rest with
              | some rest => formattedPart steps raw (depth + 1) rest
              | none => some rest
            let rest ← Text.after? "\x7d" rest
            formattedPart steps raw depth rest

end

end SongSheet.Script
