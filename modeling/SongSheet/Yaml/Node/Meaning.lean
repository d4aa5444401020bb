import SongSheet.Yaml.Node
import SongSheet.Yaml.Value

/-!
# What nodes mean

`Node.meaning` is the value of a node, together with the faults in it. The values of a node with
faults stand for nothing. A text has the fault that is met first when collections are read level by
level: all parts of a collection come before the parts of these parts.
-/

set_option autoImplicit false

namespace SongSheet.Yaml

/-- A fault, and how deep it is. -/
structure Fault where
  depth : Nat
  error : Error

/-- The first of the faults that are the least deep. -/
def Fault.first? (faults : List Fault) : Option Fault :=
  faults.foldl (fun first f =>
    match first with
    | some g => if f.depth < g.depth then some f else first
    | none => some f) none

/-- A value, and the faults in what it was read from. -/
structure Meaning (α : Type) where
  value : α
  faults : List Fault := []

namespace Meaning

/-- A fault in place of a value. -/
def fault {α : Type} (value : α) (depth : Nat) (error : Error) : Meaning α :=
  { value, faults := [⟨depth, error⟩] }

/-- What two meanings make, with the faults of both. -/
def both {α β γ : Type} (make : α → β → γ) (a : Meaning α) (b : Meaning β) : Meaning γ :=
  { value := make a.value b.value, faults := a.faults ++ b.faults }

/-- What a meaning makes. -/
def map {α β : Type} (make : α → β) (a : Meaning α) : Meaning β :=
  { value := make a.value, faults := a.faults }

end Meaning

/-- The truth value that a scalar is worth. -/
def truthOf (t : Text) : Except Error Bool :=
  let isOneOf (words : List String) : Bool := words.any fun w => Text.ofString w = lowered t
  if isOneOf ["yes", "true", "on"] then .ok true
  else if isOneOf ["no", "false", "off"] then .ok false
  else .error .truth

/-- The scalar that a text is worth under a kind of scalars. -/
def Kind.scalarOf (kind : Kind) (t : Text) : Except Error Scalar :=
  match kind with
  | null => .ok .null
  | bool => (truthOf t).map .bool
  | int => (intOf t).map .int
  | float => (floatOf t).map .float
  | binary => (octetsOf t).map .octets
  | timestamp => (Moment.ofScalar t).map .moment
  | text => .ok (.text t)
  | sequence | mapping | set | ordered | pairs | merge | default | unknown => .error .malformed

/-- A kind of scalars. -/
def Kind.isScalar : Kind → Bool
  | null | bool | int | float | binary | timestamp | text => true
  | sequence | mapping | set | ordered | pairs | merge | default | unknown => false

/-- A kind of collections. A fault in their form counts as one in a part of them. -/
def Kind.isCollection : Kind → Bool
  | sequence | mapping | set | ordered | pairs => true
  | null | bool | int | float | binary | timestamp | text | merge | default | unknown => false

namespace Node

mutual

/-- The text of a node that has to be a scalar. A mapping may have one under its default key. -/
def scalarText? : Node → Option Text
  | .scalar _ t => some t
  | .mapping _ entries _ => defaultText? entries
  | _ => none

/-- The text under the default key of a mapping. -/
def defaultText? : List (Node × Node) → Option Text
  | [] => none
  | (key, value) :: rest => if key.kind = .default then value.scalarText? else defaultText? rest

end

/-- The value of a node of a kind of scalars. Only a scalar itself can be a moment. -/
def scalarMeaning (depth : Nat) (kind : Kind) (node : Node) : Meaning Value :=
  let answer : Except Error Scalar :=
    match node.scalarText?, node, kind with
    | none, _, _ => .error .malformed
    | some _, .mapping .., .timestamp => .error .dateKind
    | some t, _, kind => kind.scalarOf t
  match answer with
  | .ok s => { value := .scalar s }
  | .error e => .fault .null depth e

/-- The value of a node of a kind that has no such nodes. -/
def misfit (depth : Nat) (kind : Kind) : Meaning Value :=
  if kind.isCollection then .fault (.list []) (depth + 1) .malformed
  else .fault .null depth .malformed

/-- A key has to be a scalar. -/
def keyMeaning (depth : Nat) (key : Meaning Value) : Meaning Scalar :=
  match key.value with
  | .scalar s => { value := s, faults := key.faults }
  | _ => { value := .null, faults := key.faults ++ [⟨depth, .malformed⟩] }

mutual

/-- The value of a node at a depth. -/
def meaning (depth : Nat) : Node → Meaning Value
  | .enclosing => { value := .list [.null] }
  | .scalar kind t =>
    if kind.isScalar then scalarMeaning depth kind (.scalar kind t) else misfit depth kind
  | .sequence kind items =>
    match kind with
    | .sequence => (itemMeanings (depth + 1) items).map .list
    | .ordered | .pairs => (pairMeanings (depth + 1) items).map .pairs
    | kind => misfit depth kind
  | .mapping kind entries merged =>
    match kind, merged with
    | .mapping, some merged =>
      (entryMeanings (depth + 1) merged).map fun entries => .table (Table.ofEntries entries)
    | .set, some merged =>
      (entryMeanings (depth + 1) merged).map fun entries =>
        .set ((Table.ofEntries entries).map (·.1))
    | kind, _ =>
      if kind.isScalar then scalarMeaning depth kind (.mapping kind entries merged)
      else misfit depth kind

/-- The values of the items of a sequence. -/
def itemMeanings (depth : Nat) : List Node → Meaning (List Value)
  | [] => { value := [] }
  | node :: rest => .both List.cons (node.meaning depth) (itemMeanings depth rest)

/-- The keys and values of the items of a sequence, each of which has to be a mapping of one entry.
-/
def pairMeanings (depth : Nat) : List Node → Meaning (List (Value × Value))
  | [] => { value := [] }
  | .mapping _ [(key, value)] _ :: rest =>
    .both List.cons (.both Prod.mk (key.meaning depth) (value.meaning depth))
      (pairMeanings depth rest)
  | _ :: _ => .fault [] depth .malformed

/-- The keys and values of the entries of a mapping. -/
def entryMeanings (depth : Nat) : List (Node × Node) → Meaning (List (Scalar × Value))
  | [] => { value := [] }
  | (key, value) :: rest =>
    .both List.cons
      (.both Prod.mk (keyMeaning depth (key.meaning depth)) (value.meaning depth))
      (entryMeanings depth rest)

end

/-- The value of a node, or its first fault. -/
def value (node : Node) : Except Error Value :=
  let m := node.meaning 0
  match Fault.first? m.faults with
  | some f => .error f.error
  | none => .ok m.value

end Node

end SongSheet.Yaml
