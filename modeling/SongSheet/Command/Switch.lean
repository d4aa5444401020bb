import SongSheet.Text.Digit

/-!
# Switches and operands

How a list of arguments is told apart. A switch starts with a dash and may be shortened as long as
one switch alone starts like it; some take a value, which follows them or an equals sign. Short
switches may stand together behind one dash. Everything else is an operand, and so is everything
behind two dashes that stand alone, and a negative number.

`Form.scan` gives what was met in order, as what comes first decides: a switch that asks for help
does so in front of a mistake, and not behind it. Which operands a form takes is settled by their
first group; what is met later is left over.
-/

set_option autoImplicit false

namespace SongSheet.Command

/-- A switch of a command. -/
structure Switch where
  /-- What it is called, dashes included; the last name is its own. -/
  names : List Text
  takesValue : Bool := false

/-- The name that a switch is known by. -/
def Switch.key (s : Switch) : Text := s.names.getLast?.getD []

/-- Which operands a command takes. -/
inductive Operands where
  | none
  | one
  | many
  /-- A command, and all that follows it. -/
  | command
  deriving DecidableEq, Repr

/-- The switches and operands of a command. -/
structure Form where
  switches : List Switch
  operands : Operands

/-- A switch as it was met. -/
structure Met where
  switch : Switch
  /-- The name that it has there. -/
  spelled : Text
  /-- What is attached to it. -/
  attached : Option Text := .none

/-- An argument by its kind. -/
inductive Argument where
  | operand (text : Text)
  /-- Two dashes alone. -/
  | separator
  /-- A switch; one that the command does not know is still none of its operands. -/
  | switch (met : Option Met) (text : Text)

/-- An argument as it was given. -/
def Argument.text : Argument → Text
  | operand t => t
  | separator => "--"
  | switch _ t => t

/-- What was taken from the arguments. -/
inductive Taken where
  /-- A switch; its value is missing if it takes none, or if two dashes are attached to it. -/
  | switch (key : Text) (value : Option Text)
  | operands (values : List Text)
  deriving DecidableEq, Repr

/-- What came of the arguments. -/
structure Scan where
  taken : List Taken := []
  /-- What the command does not know. -/
  leftOver : List Text := []
  /-- The scan broke off after what was taken. -/
  failed : Bool := false

namespace Form

/-- The names of all switches, each with its switch. -/
def named (f : Form) : List (Text × Switch) :=
  f.switches.flatMap fun s => s.names.map (·, s)

/-- The switch of a name. -/
def switch? (f : Form) (name : Text) : Option Switch :=
  (f.named.find? (·.1 = name)).map (·.2)

/-- A text before and after its first equals sign. -/
def splitEquals (t : Text) : Text × Option Text :=
  match Text.cut? "=" t with
  | some (before, after) => (before, some after)
  | none => (t, none)

/-- The text starts with two dashes. -/
def isLong (t : Text) : Bool := (Text.after? "--" t).isSome

/-- The switches that an argument may be short for. -/
def candidates (f : Form) (t : Text) : List Met :=
  if isLong t then
    let (start, attached) := splitEquals t
    f.named.filterMap fun (name, switch) =>
      if (Text.after? start name).isSome then
        some { switch, spelled := name, attached }
      else none
  else
    f.named.filterMap fun (name, switch) =>
      if name = t.take 2 then some { switch, spelled := name, attached := some (t.drop 2) }
      else if (Text.after? t name).isSome then some { switch, spelled := name }
      else none

/-- A number below zero, which is an operand; one line break may end it. -/
def isNegativeNumber (t : Text) : Bool :=
  match Text.after? "-" t with
  | none => false
  | some rest =>
    let (whole, after) := Text.takeDigits rest
    let (fraction, final) :=
      match Text.after? "." after with
      | some after => Text.takeDigits after
      | none => (whole, after)
    !fraction.isEmpty && (final = [] || final = ("\n" : Text))

/-- The kind of an argument; nothing where it is short for more than one switch. -/
def classifyOne (f : Form) (t : Text) : Option Argument :=
  if (Text.after? "-" t).isNone ∨ t = "-" then some (.operand t)
  else
    match f.switch? t, splitEquals t with
    | some switch, _ => some (.switch (some { switch, spelled := t }) t)
    | none, (start, attached) =>
      match attached, f.switch? start with
      | some _, some switch =>
        some (.switch (some { switch, spelled := start, attached }) t)
      | _, _ =>
        match f.candidates t with
        | [met] => some (.switch (some met) t)
        | _ :: _ :: _ => none
        | [] =>
          if isNegativeNumber t ∨ t.elem (' ' : CodePoint) then some (.operand t)
          else some (.switch none t)

/-- The kinds of arguments. -/
def classify (f : Form) : List Text → Option (List Argument)
  | [] => some []
  | t :: rest =>
    if t = "--" then some (.separator :: rest.map .operand)
    else do
      let first ← f.classifyOne t
      return first :: (← f.classify rest)

/-- Whether an argument is two dashes alone. -/
def isSeparator : Argument → Bool
  | .separator => true
  | _ => false

/-- Whether an argument is a switch. -/
def isSwitch : Argument → Bool
  | .switch .. => true
  | _ => false

/-- The operands at the front of arguments, if there are as many as are wanted, and the rest. -/
def takeOperands (wanted : Operands) (arguments : List Argument) :
    Option (List Text × List Argument) :=
  let (dashes, rest) := arguments.span isSeparator
  match rest with
  | .operand t :: rest =>
    let texts (more : List Argument) : List Text := (dashes.map (·.text)) ++ t :: more.map (·.text)
    match wanted with
    | .none => none
    | .one =>
      let (more, rest) := rest.span isSeparator
      some ((texts more).erase "--", rest)
    | .many =>
      let (more, rest) := rest.span fun a => !isSwitch a
      some ((texts more).erase "--", rest)
    | .command => some (texts rest, [])
  | _ => none

/-- A switch with its value, and all short switches that are attached to it: what is taken, and the
rest of the arguments. Nothing is taken where one of them is unknown. -/
def takeSwitch (f : Form) : Nat → Met → List Argument → Option (List Taken × List Argument)
  | 0, _, _ => none
  | steps + 1, met, arguments =>
    let key := met.switch.key
    match met.attached, met.switch.takesValue with
    | some value, true =>
      some ([.switch key (if value = "--" then none else some value)], arguments)
    | none, true =>
      match arguments with
      | .operand t :: rest => some ([.switch key (some t)], rest)
      | _ => none
    | none, false => some ([.switch key none], arguments)
    | some [], false => none
    | some (letter :: rest), false =>
      if isLong met.spelled then none
      else do
        let spelled : Text := ['-', letter]
        let switch ← f.switch? spelled
        let next : Met :=
          { switch, spelled, attached := if rest.isEmpty then none else some rest }
        let (taken, arguments) ← f.takeSwitch steps next arguments
        return (.switch key none :: taken, arguments)

/-- What comes of arguments whose kinds are known; the operands may still be wanted. -/
def scanFrom (f : Form) : Nat → Operands → List Argument → Scan
  | 0, _, _ => { failed := true }
  | steps + 1, wanted, arguments =>
    let goOn (taken : List Taken) (leftOver : List Text) (wanted : Operands)
        (rest : List Argument) : Scan :=
      let later := f.scanFrom steps wanted rest
      { later with taken := taken ++ later.taken, leftOver := leftOver ++ later.leftOver }
    match arguments with
    | [] => {}
    | .switch none t :: rest => goOn [] [t] wanted rest
    | .switch (some met) t :: rest =>
      match f.takeSwitch (t.length + 1) met rest with
      | some (taken, rest) => goOn taken [] wanted rest
      | none => { failed := true }
    | _ =>
      match takeOperands wanted arguments with
      | some (values, rest) => goOn [.operands values] [] .none rest
      | none =>
        let (unknown, rest) := arguments.span fun a => !isSwitch a
        goOn [] (unknown.map (·.text)) wanted rest

/-- What comes of arguments. -/
def scan (f : Form) (arguments : List Text) : Scan :=
  match f.classify arguments with
  | some kinds => f.scanFrom (arguments.length + 1) f.operands kinds
  | none => { failed := true }

end Form

end SongSheet.Command
