import SongSheet.Arrangement
import SongSheet.Yaml.Block
import SongSheet.Yaml.Plain
import SongSheet.Yaml.Quoted
import SongSheet.Yaml.Token

/-!
# From a text to its tokens

A `Lexer` stands at a place of the text, with the tokens so far, the indentation of every collection
that is open there, and how many brackets are open.

What may turn out to be a key is kept as a `Candidate`, one for each level of brackets, until its
colon comes or it cannot come any more: a key is on one line and not longer than 1024 code points.
In a block a scalar at the indentation of the block has to be a key.
-/

set_option autoImplicit false

namespace SongSheet.Yaml

/-- A token that may turn out to begin a key. -/
structure Candidate where
  /-- How many tokens are in front of it. -/
  position : Nat
  /-- Nothing but a key may stand here. -/
  isRequired : Bool
  place : Source

/-- The most code points that a key has. -/
def keyLimit : Nat := 1024

/-- A place in a text, with the tokens in front of it. -/
structure Lexer where
  source : Source
  /-- The tokens so far, the last one first. -/
  tokens : List Token := []
  /-- How many brackets are open. -/
  depth : Nat := 0
  /-- The indentation of the innermost collection. -/
  indent : Int := -1
  /-- The indentations around it, the innermost first. -/
  outer : List Int := []
  /-- A key may begin here. -/
  allowsKey : Bool := true
  /-- What may be a key, by the level of brackets. -/
  candidates : List (Nat × Candidate) := []

namespace Lexer

/-- A token more. -/
def push (l : Lexer) (token : Token) : Lexer := { l with tokens := token :: l.tokens }

/-- Goes on to a later place. -/
def moveTo (l : Lexer) (rest : Text) : Lexer := { l with source := l.source.moveTo rest }

/-- Whether brackets are open. -/
def inBrackets (l : Lexer) : Bool := l.depth ≠ 0

/-! ## Keys -/

/-- The candidate on the present level. -/
def candidate? (l : Lexer) : Option Candidate := valueOf? l.depth l.candidates

/-- Without the candidate on the present level. -/
def withoutCandidate (l : Lexer) : Lexer :=
  { l with candidates := l.candidates.filter (·.1 ≠ l.depth) }

/-- Gives the candidate on the present level up. -/
def dropCandidate (l : Lexer) : Except Error Lexer :=
  if l.candidate?.any (·.isRequired) then .error .malformed else .ok l.withoutCandidate

/-- Gives up the candidates for which no colon can come any more. -/
def dropStale (l : Lexer) : Except Error Lexer :=
  let isStale (c : Candidate) : Bool :=
    c.place.line ≠ l.source.line || keyLimit < l.source.index - c.place.index
  if l.candidates.any fun (_, c) => isStale c && c.isRequired then .error .malformed
  else .ok { l with candidates := l.candidates.filter fun (_, c) => !isStale c }

/-- Keeps in mind that a key may begin here. -/
def saveCandidate (l : Lexer) : Except Error Lexer :=
  if l.allowsKey then do
    let l ← l.dropCandidate
    let isRequired : Bool := !l.inBrackets && l.indent = l.source.column
    return { l with
      candidates := l.candidates ++ [(l.depth, ⟨l.tokens.length, isRequired, l.source⟩)] }
  else .ok l

/-- How many tokens do not depend on what comes: those in front of the first candidate. -/
def settled (l : Lexer) : Nat :=
  l.candidates.foldl (fun n (_, c) => min n c.position) l.tokens.length

/-! ## Indentation -/

/-- Closes the collections that are indented deeper than a column. -/
def closeBeyond (column : Int) (tokens : List Token) (indent : Int) :
    List Int → List Token × Int × List Int
  | [] => (tokens, indent, [])
  | next :: outer =>
    if column < indent then closeBeyond column (.blockClose :: tokens) next outer
    else (tokens, indent, next :: outer)

/-- Closes the collections that are indented deeper than a column, unless brackets are open. -/
def unwind (l : Lexer) (column : Int) : Lexer :=
  if l.inBrackets then l
  else
    let (tokens, indent, outer) := closeBeyond column l.tokens l.indent l.outer
    { l with tokens, indent, outer }

/-- Opens a collection at a column if it is indented deeper than the innermost one, its token with
those behind a position. -/
def indentTo (l : Lexer) (column position : Nat) (opening : Token) : Lexer :=
  if l.indent < column then
    let (later, earlier) := l.tokens.splitAt (l.tokens.length - position)
    { l with
      tokens := later ++ opening :: earlier
      indent := column
      outer := l.indent :: l.outer }
  else l

/-- Opens a collection here if it is indented deeper than the innermost one. -/
def indentHere (l : Lexer) (opening : Token) : Lexer :=
  l.indentTo l.source.column l.tokens.length opening

/-! ## Tokens -/

/-- A sign of one code point is a token. -/
def sign (l : Lexer) (token : Token) : Lexer :=
  { l.push token with source := l.source.forward 1 }

/-- A token that may begin a key, as it was read in front of the text that follows it. -/
def keyed (l : Lexer) (read : Except Error (Token × Text)) : Except Error Lexer := do
  let l ← l.saveCandidate
  let (token, rest) ← read
  return ({ l with allowsKey := false }.push token).moveTo rest

/-- A directive. -/
def directive (l : Lexer) : Except Error Lexer := do
  let l ← (l.unwind (-1)).dropCandidate
  let (directive, rest) ← Directive.read (l.source.rest.drop 1)
  return ({ l with allowsKey := false }.push (.directive directive)).moveTo rest

/-- A mark of the beginning or the end of a document. -/
def documentMark (l : Lexer) (token : Token) : Except Error Lexer := do
  let l ← (l.unwind (-1)).dropCandidate
  return { l.push token with allowsKey := false, source := l.source.forward 3 }

/-- An opening bracket. -/
def opening (l : Lexer) (token : Token) : Except Error Lexer := do
  let l ← l.saveCandidate
  return { l.sign token with depth := l.depth + 1, allowsKey := true }

/-- A closing bracket. -/
def closing (l : Lexer) (token : Token) : Except Error Lexer := do
  let l ← l.dropCandidate
  return { l.sign token with depth := l.depth - 1, allowsKey := false }

/-- A comma. -/
def comma (l : Lexer) : Except Error Lexer := do
  let l ← l.dropCandidate
  return { l.sign .comma with allowsKey := true }

/-- A dash in front of an item. -/
def dash (l : Lexer) : Except Error Lexer := do
  if !l.inBrackets && !l.allowsKey then .error .malformed
  else
    let l := if l.inBrackets then l else l.indentHere .sequenceBlockOpen
    let l ← l.dropCandidate
    return { l.sign .dash with allowsKey := true }

/-- A question mark in front of a key. -/
def key (l : Lexer) : Except Error Lexer := do
  if !l.inBrackets && !l.allowsKey then .error .malformed
  else
    let l := if l.inBrackets then l else l.indentHere .mappingBlockOpen
    let l ← l.dropCandidate
    return { l.sign .key with allowsKey := !l.inBrackets }

/-- A colon in front of a value. What may be a key in front of it is one. -/
def value (l : Lexer) : Except Error Lexer := do
  match l.candidate? with
  | some c =>
    let l := l.withoutCandidate
    let (later, earlier) := l.tokens.splitAt (l.tokens.length - c.position)
    let l := { l with tokens := later ++ Token.key :: earlier, allowsKey := false }
    let l := if l.inBrackets then l else l.indentTo c.place.column c.position .mappingBlockOpen
    return l.sign .value
  | none =>
    if !l.inBrackets && !l.allowsKey then .error .malformed
    else
      let l := if l.inBrackets then l else l.indentHere .mappingBlockOpen
      let l ← { l with allowsKey := !l.inBrackets }.dropCandidate
      return l.sign .value

/-- An alias or an anchor, behind its sign. -/
def named (make : Text → Token) (t : Text) : Except Error (Token × Text) :=
  let ends : Text := "?:,]\x7d%@\x60"
  match Tag.name? t with
  | none => .error .malformed
  | some (name, rest) =>
    if isBlankNext rest || rest.head?.any ends.elem then .ok (make name, rest)
    else .error .malformed

/-- A block scalar. -/
def blockScalar (l : Lexer) (isFolded : Bool) : Except Error Lexer := do
  let l ← l.dropCandidate
  let (text, rest) ← Block.read isFolded (l.indent + 1).toNat (l.source.rest.drop 1)
  return ({ l with allowsKey := true }.push (.scalar text false)).moveTo rest

/-- A quoted scalar. -/
def quotedScalar (l : Lexer) (isDouble : Bool) : Except Error Lexer :=
  l.keyed ((quoted isDouble (l.source.rest.drop 1)).map fun (text, rest) =>
    (.scalar text false, rest))

/-- A plain scalar. A key may begin behind it if it ended with its line. -/
def plainScalar (l : Lexer) : Except Error Lexer := do
  let l ← l.saveCandidate
  let (text, crosses, rest) := plain l.inBrackets (l.indent + 1).toNat l.source.rest
  return ({ l with allowsKey := crosses }.push (.scalar text true)).moveTo rest

/-! ## Steps -/

/-- Spaces, comments and ends of lines in front of a token, as what they leave, and whether a line
ended. -/
def skipped (hasEnded isComment : Bool) : Text → Bool × Text
  | [] => (hasEnded, [])
  | c :: t =>
    if isBreak c then skipped true false t
    else if isComment then skipped hasEnded true t
    else if c = ' ' then skipped hasEnded false t
    else if c = '#' then skipped hasEnded true t
    else (hasEnded, c :: t)

/-- Goes on to the next token. A new line in a block may begin with a key. -/
def skip (l : Lexer) : Lexer :=
  let isStart : Bool := l.source.index = 0 && l.source.rest.head?.any (·.val = 0xFEFF)
  let l := if isStart then { l with source := l.source.forward 1 } else l
  let (hasEnded, rest) := skipped false false l.source.rest
  { l.moveTo rest with allowsKey := l.allowsKey || (hasEnded && !l.inBrackets) }

/-- Reads the token that starts here with a code point. -/
def token (l : Lexer) (c : CodePoint) (t : Text) : Except Error Lexer :=
  let starts : Bool := l.source.column = 0
  let isMark (mark : Text) : Bool := starts && (Text.after? mark (c :: t)).any isBlankNext
  let counts : Bool := l.inBrackets || isBlankNext t
  if starts && c = '%' then l.directive
  else if isMark "---" then l.documentMark .documentStart
  else if isMark "..." then l.documentMark .documentEnd
  else if c = '[' then l.opening .sequenceOpen
  else if c = '{' then l.opening .mappingOpen
  else if c = ']' then l.closing .sequenceClose
  else if c = '}' then l.closing .mappingClose
  else if c = ',' then l.comma
  else if c = '-' && isBlankNext t then l.dash
  else if c = '?' && counts then l.key
  else if c = ':' && counts then l.value
  else if c = '*' then l.keyed (named .alias t)
  else if c = '&' then l.keyed (named .anchor t)
  else if c = '!' then
    l.keyed ((Tag.read (c :: t)).map fun (tag, rest) => (.tag tag, rest))
  else if c = '|' && !l.inBrackets then l.blockScalar false
  else if c = '>' && !l.inBrackets then l.blockScalar true
  else if c = '\'' then l.quotedScalar false
  else if c = '"' then l.quotedScalar true
  else if startsPlain l.inBrackets (c :: t) then l.plainScalar
  else .error .malformed

/-- The end of the text. -/
def finish (l : Lexer) : Except Error Lexer := (l.unwind (-1)).dropCandidate

/-- Reads one token, at least, and says whether the text goes on; at its end, everything is closed.
-/
def step (l : Lexer) : Except Error (Lexer × Bool) := do
  let l ← l.skip.dropStale
  let l := l.unwind l.source.column
  match l.source.rest with
  | [] => return (← l.finish, false)
  | c :: t => return (← l.token c t, true)

/-- All tokens of a text. Where it goes on with something that is none, the tokens are those that do
not depend on it, and then the fault. Every step but the last takes a code point. -/
def run : Nat → Lexer → List Token
  | 0, l => l.tokens.reverse
  | steps + 1, l =>
    match l.dropStale with
    | .error e => l.tokens.reverse ++ [.fault e]
    | .ok l =>
      match l.step with
      | .ok (l, true) => run steps l
      | .ok (l, false) => l.tokens.reverse
      | .error e => l.tokens.reverse.take l.settled ++ [.fault e]

end Lexer

/-- The tokens of a text. -/
def Token.scan (t : Text) : List Token :=
  Lexer.run (t.length + 1) { source := { rest := t } }

end SongSheet.Yaml
