import SongSheet.Arrangement
import SongSheet.Host

/-!
# A host without a machine

A disk is a map from paths to files and directories; the working directory is always there, and so
are those around it. With a log and a printout it is a host, on which a command is a pure function.

The map knows every place by one path, without parts of two points that could be left out. Which
place a path leads to is found by walking along its parts, as every directory on the way has to be
there.
-/

set_option autoImplicit false

namespace SongSheet

/-- What is at a path. -/
inductive Entry where
  | file (octets : List UInt8)
  | directory
  deriving DecidableEq, Repr

/-- Files and directories by their paths. -/
structure Disk where
  entries : List (Path × Entry) := []
  deriving DecidableEq, Repr

namespace Disk

/-- What is at a place, if anything. -/
def at? (d : Disk) (p : Path) : Option Entry :=
  if p.isAround then some .directory else valueOf? p d.entries

/-- Puts something at a place. -/
def put (d : Disk) (p : Path) (e : Entry) : Disk := ⟨setEntry p e d.entries⟩

/-- The most octets in the name of a file. -/
def nameLimit : Nat := 255

/-- The number of octets that a path has to stay below. -/
def pathLimit : Nat := 4096

/-- The place that parts lead to from another one. Every part but the last has to be a directory. -/
def walk (d : Disk) (here : Path) : List Text → Except HostCause Path
  | [] => .ok here
  | part :: rest =>
    match d.at? here with
    | none => .error .missing
    | some (.file _) => .error .notDirectory
    | some .directory =>
      if nameLimit < Path.octetCount part then .error .nameTooLong
      else d.walk (here.follow part) rest

/-- The place that a path leads to. -/
def place (d : Disk) (p : Path) : Except HostError Path :=
  if pathLimit ≤ Path.octetCount p.display then .error ⟨.nameTooLong, p⟩
  else (d.walk { root := p.root } p.parts).mapError (⟨·, p⟩)

/-- The octets of a file. -/
def read (d : Disk) (p : Path) : Except HostError (List UInt8) := do
  match d.at? (← d.place p) with
  | some (.file octets) => .ok octets
  | some .directory => .error ⟨.isDirectory, p⟩
  | none => .error ⟨.missing, p⟩

/-- Makes a file of octets. The directory that it is in has to be there. -/
def write (d : Disk) (p : Path) (octets : List UInt8) : Except HostError Disk := do
  let place ← d.place p
  match d.at? place with
  | some .directory => .error ⟨.isDirectory, p⟩
  | some (.file _) | none => .ok (d.put place (.file octets))

/-- Makes a directory where nothing is. The directory that it is in has to be there. -/
def makeOne (d : Disk) (p : Path) : Except HostError Disk := do
  let place ← d.place p
  match d.at? place with
  | some _ => .error ⟨.alreadyThere, p⟩
  | none => .ok (d.put place .directory)

/-- Something is missing where a path leads, or on the way there. -/
def isMissing : HostCause → Bool
  | .missing | .notDirectory => true
  | _ => false

/-- Whether something that satisfies a test is where a path leads. -/
def holds (d : Disk) (p : Path) (test : Entry → Bool) : Except HostError Bool :=
  match d.place p with
  | .ok place => .ok ((d.at? place).any test)
  | .error e => if isMissing e.cause then .ok false else .error e

/-- A directory that could not be made is good enough if it is there already. -/
def unlessThere (d : Disk) (p : Path) (e : HostError) : Except HostError Unit := do
  if ← d.holds p (· = .directory) then .ok () else .error e

/-- Makes a directory, and first those that it is in, up to so many, where they are missing. Those
that were made stay when one of them cannot be made. -/
def makeWithin : Nat → Disk → Path → Except HostError Unit × Disk
  | outer, d, p =>
    match d.makeOne p, outer with
    | .ok d, _ => (.ok (), d)
    | .error ⟨.missing, q⟩, 0 => (.error ⟨.missing, q⟩, d)
    | .error ⟨.missing, _⟩, outer + 1 =>
      match makeWithin outer d p.parent with
      | (.error e, d) => (.error e, d)
      | (.ok (), d) =>
        match d.makeOne p with
        | .ok d => (.ok (), d)
        | .error e => (if e.cause = .missing then .error e else d.unlessThere p e, d)
    | .error e, _ => (d.unlessThere p e, d)

/-- Makes a directory and those that it is in: whether it is there then, and the disk. -/
def makeDirectory (d : Disk) (p : Path) : Except HostError Unit × Disk :=
  makeWithin p.parts.length d p

end Disk

/-- A disk with a log and a printout. -/
structure Desk where
  disk : Disk := {}
  log : List LogRecord := []
  printed : Text := []
  deriving DecidableEq

namespace Desk

/-- Replaces the disk where a change of it succeeds. -/
def change (result : Except HostError Disk) : StateM Desk (Except HostError Unit) :=
  match result with
  | .ok disk => do
    modify fun w => { w with disk }
    return .ok ()
  | .error e => return .error e

instance : Host (StateM Desk) where
  read p := return (← get).disk.read p
  write p octets := do change ((← get).disk.write p octets)
  makeDirectory p := do
    let (answer, disk) := (← get).disk.makeDirectory p
    modify fun w => { w with disk }
    return answer
  isPresent p := return (← get).disk.holds p fun _ => true
  log r := modify fun w => { w with log := w.log ++ [r] }
  print t := modify fun w => { w with printed := w.printed ++ t }

end Desk

end SongSheet
