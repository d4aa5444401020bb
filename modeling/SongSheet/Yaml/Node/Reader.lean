import SongSheet.Yaml.Node
import SongSheet.Yaml.Token.Lexer

/-!
# From tokens to nodes

The tokens of a text are read as a document, or as none if there are none. A node may have a tag and
an anchor, by which an alias names it again further on.

Where a node may be missing, it is missing if a token comes that cannot begin one; what such tokens
are depends on the place.
-/

set_option autoImplicit false

namespace SongSheet.Yaml

/-- What reading knows. -/
structure Reading where
  tokens : List Token
  /-- Nodes by their anchors. One that has no node yet is being read. -/
  anchors : List (Text × Option Node) := []
  /-- What handles mean. -/
  handles : List (Text × Text) := []

/-- A step of reading. -/
abbrev Reader := StateT Reading (Except Error)

namespace Reader

/-- What handles mean by themselves. -/
def defaultHandles : List (Text × Text) := [("!", openTag), ("!!", standardPrefix)]

/-- The next token, if there is one. -/
def next? : Reader (Option Token) := do
  match (← get).tokens with
  | .fault e :: _ => throw e
  | token :: _ => return some token
  | [] => return none

/-- Goes on behind the next token. -/
def skip : Reader Unit := modify fun r => { r with tokens := r.tokens.drop 1 }

/-- Goes on behind a token that has to come. -/
def expect (isExpected : Token → Bool) : Reader Unit := do
  if (← next?).any isExpected then skip else throw .malformed

/-- Goes on behind a token if it comes, and says so. -/
def take (isMeant : Token → Bool) : Reader Bool := do
  if (← next?).any isMeant then
    skip
    return true
  else return false

/-! ## Tags and anchors -/

/-- An anchor, if it comes. -/
def anchor? : Reader (Option Text) := do
  match ← next? with
  | some (.anchor name) =>
    skip
    return some name
  | _ => return none

/-- A tag, if it comes. -/
def tag? : Reader (Option WrittenTag) := do
  match ← next? with
  | some (.tag tag) =>
    skip
    return some tag
  | _ => return none

/-- The whole tag of a tag as it is written. -/
def whole (tag : WrittenTag) : Reader Text := do
  match tag.handle with
  | none => return tag.name
  | some handle =>
    match valueOf? handle (← get).handles with
    | some meaning => return meaning ++ tag.name
    | none => throw .malformed

/-- A tag and an anchor in either order, if they come. -/
def properties : Reader (Option Text × Option Text) := do
  match ← anchor? with
  | some name =>
    let tag ← (← tag?).mapM whole
    return (tag, some name)
  | none =>
    match ← tag? with
    | none => return (none, none)
    | some tag =>
      let name ← anchor?
      return (some (← whole tag), name)

/-- The kind of a node with a tag, which may leave it open. -/
def kindOf (tag : Option Text) (otherwise : Kind) : Kind :=
  match tag with
  | none => otherwise
  | some tag => if tag = openTag then otherwise else .ofTag tag

/-- The kind of a scalar. Quotes make it a text unless the tag leaves it open. -/
def scalarKind (tag : Option Text) (isPlain : Bool) (t : Text) : Kind :=
  kindOf tag (if isPlain || tag.isSome then .ofText t else .text)

/-- Gives the node that is being read a name. -/
def openAnchor (name : Option Text) : Reader Unit := do
  match name with
  | none => return
  | some name =>
    if (valueOf? name (← get).anchors).isSome then throw .malformed
    else modify fun r => { r with anchors := (name, none) :: r.anchors }

/-- The node of a name has been read. -/
def closeAnchor (name : Option Text) (node : Node) : Reader Node := do
  match name with
  | none => return node
  | some name =>
    modify fun r => { r with anchors := setEntry name (some node) r.anchors }
    return node

/-- The node that an alias names. -/
def aliased (name : Text) : Reader Node := do
  match valueOf? name (← get).anchors with
  | some (some node) => return node
  | some none => return .enclosing
  | none => throw .malformed

/-! ## Nodes -/

/-- What comes before a node that may be missing in a block: nothing that could begin it. -/
def endsItem : Token → Bool
  | .dash | .blockClose => true
  | _ => false

/-- The same for the item of a sequence that is no deeper than the mapping around it. -/
def endsFlatItem : Token → Bool
  | .dash | .key | .value | .blockClose => true
  | _ => false

/-- The same for a key or a value in a block. -/
def endsEntry : Token → Bool
  | .key | .value | .blockClose => true
  | _ => false

/-- The token is a closing one of the brackets of a sequence, or of a mapping. -/
def closes (ofSequence : Bool) : Token → Bool
  | .sequenceClose => ofSequence
  | .mappingClose => !ofSequence
  | _ => false

/-- The same for a key or a value between brackets. -/
def endsInBrackets (ofSequence : Bool) (token : Token) : Bool :=
  (token matches .comma) || closes ofSequence token

mutual

/-- A node. In a block it may be a collection by indentation; `isValue` says that it may be a
sequence no deeper than the mapping around it. -/
def node : Nat → (inBlock isValue : Bool) → Reader Node
  | 0, _, _ => throw .malformed
  | steps + 1, inBlock, isValue => do
    if let some (.alias name) ← next? then
      skip
      return ← aliased name
    let (tag, name) ← properties
    let token ← next?
    let isFlat : Bool := isValue && token matches some .dash
    match token with
    | some (.scalar t isPlain) =>
      openAnchor name
      skip
      closeAnchor name (.scalar (scalarKind tag isPlain t) t)
    | some .sequenceOpen =>
      openAnchor name
      skip
      closeAnchor name (.sequence (kindOf tag .sequence) (← bracketItems steps true))
    | some .mappingOpen =>
      openAnchor name
      skip
      closeAnchor name (.ofEntries (kindOf tag .mapping) (← bracketEntries steps true))
    | some .sequenceBlockOpen =>
      if inBlock then
        openAnchor name
        skip
        closeAnchor name (.sequence (kindOf tag .sequence) (← blockItems steps))
      else empty tag name
    | some .mappingBlockOpen =>
      if inBlock then
        openAnchor name
        skip
        closeAnchor name (.ofEntries (kindOf tag .mapping) (← blockEntries steps))
      else empty tag name
    | _ =>
      if isFlat then
        openAnchor name
        closeAnchor name (.sequence (kindOf tag .sequence) (← flatItems steps))
      else empty tag name

/-- A node that has a tag or an anchor and nothing else. -/
def empty (tag name : Option Text) : Reader Node := do
  if tag.isNone && name.isNone then throw .malformed
  else
    openAnchor name
    closeAnchor name (.scalar (scalarKind tag true []) [])

/-- A node, unless a token comes that ends where it stands. -/
def nodeUnless : Nat → (Token → Bool) → (inBlock isValue : Bool) → Reader Node
  | 0, _, _, _ => throw .malformed
  | steps + 1, ends, inBlock, isValue => do
    if (← next?).any ends then return .missing else node steps inBlock isValue

/-- The items of a sequence by indentation. -/
def blockItems : Nat → Reader (List Node)
  | 0 => throw .malformed
  | steps + 1 => do
    if ← take (· matches .dash) then
      let item ← nodeUnless steps endsItem true false
      return item :: (← blockItems steps)
    else
      expect (· matches .blockClose)
      return []

/-- The items of a sequence that is no deeper than the mapping around it. -/
def flatItems : Nat → Reader (List Node)
  | 0 => throw .malformed
  | steps + 1 => do
    if ← take (· matches .dash) then
      let item ← nodeUnless steps endsFlatItem true false
      return item :: (← flatItems steps)
    else return []

/-- The entries of a mapping by indentation. -/
def blockEntries : Nat → Reader (List (Node × Node))
  | 0 => throw .malformed
  | steps + 1 => do
    if ← take (· matches .key) then
      let key ← nodeUnless steps endsEntry true true
      let value ←
        if ← take (· matches .value) then nodeUnless steps endsEntry true true else pure .missing
      return (key, value) :: (← blockEntries steps)
    else
      expect (· matches .blockClose)
      return []

/-- A key and its value between brackets, behind the token of the key. -/
def bracketEntry : Nat → (ofSequence : Bool) → Reader (Node × Node)
  | 0, _ => throw .malformed
  | steps + 1, ofSequence => do
    let endsKey (token : Token) : Bool :=
      (token matches .value) || endsInBrackets ofSequence token
    let key ← nodeUnless steps endsKey false false
    let value ←
      if ← take (· matches .value) then
        nodeUnless steps (endsInBrackets ofSequence) false false
      else pure .missing
    return (key, value)

/-- The items of a sequence between brackets. One with a key is a mapping of its own. -/
def bracketItems : Nat → (isFirst : Bool) → Reader (List Node)
  | 0, _ => throw .malformed
  | steps + 1, isFirst => do
    if ← take (closes true) then return []
    else
      unless isFirst do expect (· matches .comma)
      if ← take (closes true) then return []
      else
        let item ←
          if ← take (· matches .key) then
            pure (Node.ofEntries .mapping [← bracketEntry steps true])
          else node steps false false
        return item :: (← bracketItems steps false)

/-- The entries of a mapping between brackets. One without a key is a key without a value. -/
def bracketEntries : Nat → (isFirst : Bool) → Reader (List (Node × Node))
  | 0, _ => throw .malformed
  | steps + 1, isFirst => do
    if ← take (closes false) then return []
    else
      unless isFirst do expect (· matches .comma)
      if ← take (closes false) then return []
      else
        let entry ←
          if ← take (· matches .key) then bracketEntry steps false
          else pure (← node steps false false, Node.missing)
        return entry :: (← bracketEntries steps false)

end

/-! ## Documents -/

/-- The directives in front of a document, of which each may come once. -/
def directives : Nat → (hasVersion : Bool) → (handles : List (Text × Text)) →
    Reader (List (Text × Text))
  | 0, _, _ => throw .malformed
  | steps + 1, hasVersion, handles => do
    match ← next? with
    | some (.directive directive) =>
      skip
      match directive with
      | .version major =>
        if hasVersion || major ≠ 1 then throw .malformed else directives steps true handles
      | .handle name meaning =>
        if (valueOf? name handles).isSome then throw .malformed
        else directives steps hasVersion ((name, meaning) :: handles)
      | .other => directives steps hasVersion handles
    | _ => return handles

/-- Tokens that a document without a beginning mark cannot begin with. -/
def beginsDocument : Token → Bool
  | .directive _ | .documentStart => true
  | _ => false

/-- Tokens in front of which the node of a document behind its mark is missing. -/
def endsDocument : Token → Bool
  | .directive _ | .documentStart | .documentEnd => true
  | _ => false

/-- Marks of the end of a document, and then nothing. -/
def documentEnds : Nat → Reader Unit
  | 0 => throw .malformed
  | steps + 1 => do
    if ← take (· matches .documentEnd) then documentEnds steps
    else if (← next?).isSome then throw .malformed

/-- The only document, if there is one. -/
def document (steps : Nat) : Reader (Option Node) := do
  match ← next? with
  | none => return none
  | some token =>
    modify fun r => { r with handles := defaultHandles }
    if beginsDocument token then
      let handles ← directives steps false []
      modify fun r => { r with handles := handles ++ defaultHandles }
      expect (· matches .documentStart)
      let token ← next?
      let root ← if token.all endsDocument then pure .missing else node steps true false
      documentEnds steps
      return some root
    else
      let root ← node steps true false
      documentEnds steps
      return some root

end Reader

/-- The node of the only document in a text, if there is one. Every four steps take a token. -/
def Node.ofText? (t : Text) : Except Error (Option Node) :=
  let tokens := Token.scan t
  ((Reader.document (4 * tokens.length + 4)).run { tokens }).map (·.1)

end SongSheet.Yaml
