import SongSheet.Command
import SongSheet.Proofs.Batch.Run
import SongSheet.Proofs.Command.Invocation
import SongSheet.Proofs.Midi.File
import SongSheet.Proofs.Race
import SongSheet.Proofs.Reading
import SongSheet.Proofs.Registry
import SongSheet.Proofs.Text.Numeral

/-!
# Writing a sheet as a MIDI file

Arguments that name a sheet, an output and a pitch ask for a MIDI file (`read_midiArguments`).
Writing it ends in one of four ways (`MidiEnding`): with the file and code zero, with code one and
no file, or with a fault, which leaves either no file or the first chunk of one. The program answers
for what the host and the sheet refuse, but not for octets that are no UTF-8, a heading that has no
messages, or a name that has no octets, so **it ends with a code exactly where the sheet has none of
these** (`midi_finishes_iff`).
-/

set_option autoImplicit false

namespace SongSheet

namespace Command

open Form

/-! ## 1. The arguments -/

namespace Form

variable {f : Form}

/-- **A number is an operand**, with its sign, of a form without switches that look like one. -/
theorem classifyOne_ofInt (n : Int)
    (hnames : ∀ entry ∈ f.named, ∀ c ∈ (entry.1.drop 1).head?, c.isDigit = false) :
    f.classifyOne (Text.ofInt n) = some (.operand (Text.ofInt n)) := by
  obtain ⟨d, ds, hcons, hbetween⟩ := Text.ofNat_eq_cons n.natAbs
  have hdigit : d.isDigit = true := CodePoint.isDigit_of_between hbetween
  by_cases hneg : n < 0
  · have htext : Text.ofInt n = ('-' : CodePoint) :: d :: ds := by
      rw [Text.ofInt, if_pos hneg, hcons]
    -- No name of a switch starts with a dash and a digit.
    have hnone : ∀ entry ∈ f.named, ∀ rest, entry.1 ≠ ('-' : CodePoint) :: d :: rest := by
      intro entry hentry rest heq
      have := hnames entry hentry d (by rw [heq]; rfl)
      rw [hdigit] at this
      cases this
    have hswitch : f.switch? (Text.ofInt n) = none := by
      rw [switch?, Option.map_eq_none_iff, List.find?_eq_none]
      intro entry hentry
      simpa [htext] using hnone entry hentry ds
    have hequals : splitEquals (Text.ofInt n) = (Text.ofInt n, none) := by
      rw [splitEquals]
      cases hcut : Text.cut? "=" (Text.ofInt n) with
      | none => rfl
      | some parts =>
        obtain ⟨before, rest⟩ := parts
        have hmem : ('=' : CodePoint) ∈ Text.ofInt n := by
          rw [Text.eq_append_of_cut? hcut]
          simp [Text.ofString]
        rcases Text.mem_ofInt hmem with heq | hdigits
        · cases heq
        · cases hdigits
    have hcandidates : f.candidates (Text.ofInt n) = [] := by
      have hlong : ¬isLong (Text.ofInt n) = true := by
        have hminus : d ≠ '-' := CodePoint.ne_of_isDigit hdigit (by decide)
        rw [isLong, htext]
        simp [Text.ofString, Text.after?, Ne.symm hminus]
      rw [candidates, if_neg hlong, htext]
      refine List.filterMap_eq_nil_iff.mpr fun entry hentry => ?_
      have hafter : ¬(Text.after? (('-' : CodePoint) :: d :: ds) entry.1).isSome = true := by
        intro hsome
        obtain ⟨rest, hrest⟩ := Option.isSome_iff_exists.mp hsome
        exact hnone entry hentry _ (Text.after?_eq_some_iff.mp hrest)
      exact (if_neg (hnone entry hentry [])).trans (if_neg hafter)
    have hnumber : isNegativeNumber (Text.ofInt n) = true := by
      have hdash : Text.after? "-" (Text.ofInt n) = some (Text.ofNat n.natAbs) := by
        rw [Text.ofInt, if_pos hneg]
        rfl
      have hdigits : Text.takeDigits (Text.ofNat n.natAbs) = (Text.ofNat n.natAbs, []) := by
        have hall : Text.takeDigits (Text.ofNat n.natAbs ++ []) = (Text.ofNat n.natAbs, []) :=
          Text.takeDigits_ofNat (by simp)
        rwa [List.append_nil] at hall
      rw [isNegativeNumber, hdash]
      dsimp only
      rw [hdigits]
      simp [Text.after?, Text.ofString]
    have hdash : ¬((Text.after? "-" (Text.ofInt n)).isNone ∨ Text.ofInt n = "-") := by
      rw [htext]
      rintro (hnone | hdash)
      · cases hnone
      · cases hdash
    rw [classifyOne, if_neg hdash, hswitch, hequals]
    dsimp only
    rw [hcandidates, hnumber]
    rfl
  · refine classifyOne_operand (Text.after?_eq_none_iff.mpr ?_)
    have hminus : d ≠ '-' := CodePoint.ne_of_isDigit hdigit (by decide)
    rw [Text.ofInt, if_neg hneg, hcons]
    rintro ⟨rest, hrest⟩
    exact hminus (List.cons.inj hrest).1.symm

end Form

/-- **A command and its arguments** alone ask for what the command is asked to do. -/
theorem read_of_readCommand {name : Text} {arguments : List Text} {kinds : List Argument}
    {request : Request} (hname : Text.after? "-" name = none)
    (hkinds : programForm.classify arguments = some kinds)
    (h : readCommand name arguments = .ok (request, [])) :
    Invocation.read (name :: arguments) = .ok ⟨false, some request⟩ := by
  have hall : programForm.classify (name :: arguments) = some (.operand name :: kinds) := by
    rw [classify_cons (ne_dashes hname), classifyOne_operand hname, hkinds]
    rfl
  have htakes : takeOperands .command ([] ++ .operand name :: kinds)
      = some (name :: arguments, []) := by
    rw [takeOperands_eq (List.forall_mem_nil _), (of_classify hkinds).1]
    rfl
  have hgrouped : Grouped programForm .command (.operand name :: kinds)
      [.operands (name :: arguments)] :=
    .intro .nil htakes .nil
  have hfollow : follow programStep ({}, []) [.operands (name :: arguments)]
      = .ok ({ request := some request }, []) := by
    rw [follow, List.foldlM_cons, programStep, h]
    rfl
  rw [Invocation.read, scan_grouped hall hgrouped]
  dsimp only
  rw [hfollow]
  rfl

variable {input output : Text}

/-- The arguments that ask for a MIDI file, by names and numbers that are no switches. -/
def midiArguments (input output : Text) (basePitch : Int) : List Text :=
  ["to-midi", input, "--output", output, "--base-pitch", Text.ofInt basePitch]

/-- What they ask for. -/
def midiRequest (input output : Text) (basePitch : Int) : MidiRequest :=
  { input, output := output, basePitch := some basePitch }

/-- **They are read as what they say**, for every number. -/
theorem read_midiArguments (hinput : Text.after? "-" input = none)
    (houtput : Text.after? "-" output = none) (basePitch : Int) :
    Invocation.read (midiArguments input output basePitch)
      = .ok ⟨false, some (.toMidi (midiRequest input output basePitch))⟩ := by
  have hnumber : Text.ofInt basePitch ≠ ("--" : Text) := by
    intro heq
    have hread := Text.wholeInt?_ofInt basePitch
    rw [heq] at hread
    cases hread
  have hkinds : ∀ (f : Form) (first second : Option Met),
      f.classifyOne "--output" = some (.switch first "--output") →
      f.classifyOne "--base-pitch" = some (.switch second "--base-pitch") →
      (∀ entry ∈ f.named, ∀ c ∈ (entry.1.drop 1).head?, c.isDigit = false) →
      f.classify [input, "--output", output, "--base-pitch", Text.ofInt basePitch]
        = some [.operand input, .switch first "--output", .operand output,
          .switch second "--base-pitch", .operand (Text.ofInt basePitch)] := by
    intro f first second hfirst hsecond hnames
    exact classify_of_forall₂ (.cons ⟨ne_dashes hinput, classifyOne_operand hinput⟩
      (.cons ⟨by decide, hfirst⟩ (.cons ⟨ne_dashes houtput, classifyOne_operand houtput⟩
        (.cons ⟨by decide, hsecond⟩ (.cons ⟨hnumber, classifyOne_ofInt _ hnames⟩ .nil)))))
  have hgrouped : Grouped midiForm .one
      [.operand input, .switch (some (metValue "--output")) "--output", .operand output,
        .switch (some (metValue "--base-pitch")) "--base-pitch",
        .operand (Text.ofInt basePitch)]
      [.operands [input], .switch "--output" (some output),
        .switch "--base-pitch" (some (Text.ofInt basePitch))] := by
    refine .intro .nil (takeOperands_one (ne_dashes hinput) ?_)
      ((switches_value (isOf_metValue rfl (by decide) (by simp [midiForm])) output).append
        (switches_value (isOf_metValue rfl (by decide) (by simp [midiForm])) _))
    rintro a ⟨⟩
    rfl
  refine read_of_readCommand (by decide) (hkinds programForm none none rfl rfl (by decide)) ?_
  show readMidi _ = _
  rw [readMidi, scan_grouped (hkinds midiForm _ _ rfl rfl (by decide)) hgrouped]
  simp only [follow, List.foldlM_cons, List.foldlM_nil, midiStep, Text.wholeInt?_ofInt]
  rfl

end Command

/-! ## 2. What a sheet comes to -/

/-- What a reader of the program makes has a tempo, and its beats last. -/
theorem Registry.runs_of_read {fileName : Option Text} {t : Text} {score : Score}
    (h : Registry.default.read fileName t = .ok score) : score.Runs := by
  obtain ⟨before, label, reader, after, hreaders, -, hread⟩ := read_eq_ok_iff.mp h
  have hmem : (label, reader) ∈ Format.entries Format.all := by
    rw [← Format.readers_default, hreaders]
    simp
  obtain ⟨f, -, hentry⟩ := List.mem_map.mp hmem
  cases hentry
  cases f with
  | eventSheet => exact (EventSheet.runs_of_read (ok_of_mapError hread)).1
  | letterSheet => exact (LetterSheet.runs_of_read (ok_of_mapError hread)).1
  | cipherSheet => exact (CipherSheet.runs_of_read (ok_of_mapError hread)).1
  | script => exact (Script.runs_of_read hread).1

namespace Disk

variable {d : Disk} {input : Path} {score : Score}

/-- A file is a sheet in UTF-8, and a score is read of it. -/
def HasScore (d : Disk) (input : Path) (score : Score) : Prop :=
  ∃ t, d.text .utf8 input = .ok (.ok t) ∧ Registry.default.read (some input.name) t = .ok score

/-- A file is a sheet, and octets are its MIDI file. -/
def HasMidi (d : Disk) (input : Path) (basePitch : Int) (octets : List UInt8) : Prop :=
  ∃ score track, d.HasScore input score
    ∧ ({ basePitch } : Midi.Exporter).track score = .ok track
    ∧ Midi.file ({} : Midi.Exporter).ticksPerBeat track = .ok octets

/-- Nothing about a file, if there is one, is a fault when it is written as a MIDI file. -/
structure Exportable (d : Disk) (input : Path) (basePitch : Int) : Prop where
  nameable : input.fault? = none
  decodable : ∀ octets, d.read input = .ok octets → ∃ t, Utf8.decode octets = .ok t
  heading : ∀ score, d.HasScore input score → score.HasHeading
  /-- The name becomes octets last, so it is no matter where a pitch is out of range. -/
  name : ∀ score track, d.HasScore input score →
    ({ basePitch } : Midi.Exporter).track score = .ok track → score.HasNarrowName

variable {basePitch : Int} {t : Text}

/-- Reading a file in UTF-8 is no fault if it can be named and its octets, if there are any, are a
text. -/
theorem readable_iff :
    (input.fault? = none ∧ ∀ octets, d.read input = .ok octets → ∃ t, Utf8.decode octets = .ok t)
      ↔ ∃ reading, d.text .utf8 input = .ok reading ∧ ∀ e, reading ≠ .error (.undecodable e) := by
  rw [Disk.text]
  cases input.fault? with
  | some fault => exact iff_of_false (by simp) (by simp)
  | none =>
    cases d.read input with
    | error e => exact iff_of_true (by simp) (by simp)
    | ok octets =>
      have hdecode : Encoding.utf8.decode octets = (Utf8.decode octets).mapError .octets := rfl
      dsimp only
      rw [Encoding.text, hdecode]
      cases hresult : Utf8.decode octets with
      | ok t =>
        refine iff_of_true ⟨rfl, ?_⟩ (by simp [Except.mapError])
        rintro other ⟨⟩
        exact ⟨t, hresult⟩
      | error e =>
        refine iff_of_false ?_ ?_
        · rintro ⟨-, hall⟩
          obtain ⟨t, ht⟩ := hall octets rfl
          cases hresult.symm.trans ht
        · rintro ⟨reading, ⟨⟩, hne⟩
          exact hne e rfl

/-- The score of a file is that of its text. -/
theorem hasScore_iff (ht : d.text .utf8 input = .ok (.ok t)) :
    d.HasScore input score ↔ Registry.default.read (some input.name) t = .ok score := by
  refine ⟨?_, fun h => ⟨t, ht, h⟩⟩
  rintro ⟨u, hu, h⟩
  rw [ht] at hu
  cases hu
  exact h

theorem hasScore_unique {score' : Score} (h : d.HasScore input score)
    (h' : d.HasScore input score') : score' = score := by
  obtain ⟨t, ht, hread⟩ := h
  exact Except.ok.inj (((hasScore_iff ht).mp h').symm.trans hread)

theorem hasMidi_unique {octets octets' : List UInt8} (h : d.HasMidi input basePitch octets)
    (h' : d.HasMidi input basePitch octets') : octets' = octets := by
  obtain ⟨score, track, hscore, htrack, hfile⟩ := h
  obtain ⟨score', track', hscore', htrack', hfile'⟩ := h'
  obtain rfl := hasScore_unique hscore hscore'
  obtain rfl := Except.ok.inj (htrack'.symm.trans htrack)
  exact Except.ok.inj (hfile'.symm.trans hfile)

theorem HasScore.runs (h : d.HasScore input score) : score.Runs := by
  obtain ⟨t, -, hread⟩ := h
  exact Registry.runs_of_read hread

/-- A file without a score has no MIDI file, and is no fault if reading it is none. -/
theorem exportable_of_not_hasScore {reading : Except Command.ReadFailure Text}
    (ht : d.text .utf8 input = .ok reading) (hdecodes : ∀ e, reading ≠ .error (.undecodable e))
    (hnone : ∀ score, ¬d.HasScore input score) :
    d.Exportable input basePitch ∧ ∀ octets, ¬d.HasMidi input basePitch octets := by
  obtain ⟨hinput, hoctets⟩ := readable_iff.mpr ⟨reading, ht, hdecodes⟩
  refine ⟨⟨hinput, hoctets, fun score h => absurd h (hnone score),
    fun score _ h => absurd h (hnone score)⟩, ?_⟩
  rintro octets ⟨score, -, hscore, -⟩
  exact hnone score hscore

/-- A file with a score is a fault because of its heading or its name. -/
theorem exportable_iff_of_hasScore (h : d.HasScore input score) :
    d.Exportable input basePitch ↔ score.HasHeading
      ∧ ∀ track, ({ basePitch } : Midi.Exporter).track score = .ok track →
        score.HasNarrowName := by
  constructor
  · intro hall
    exact ⟨hall.heading score h, fun track => hall.name score track h⟩
  · rintro ⟨hheading, hname⟩
    obtain ⟨t, ht, -⟩ := id h
    obtain ⟨hinput, hoctets⟩ := readable_iff.mpr ⟨_, ht, nofun⟩
    refine ⟨hinput, hoctets, fun score' h' => ?_, fun score' track h' => ?_⟩
    · rw [hasScore_unique h h']
      exact hheading
    · rw [hasScore_unique h h']
      exact hname track

end Disk

namespace Command

/-! ## 3. How it ends -/

/-- How the program ends with what comes of a request. -/
def Outcome.ofResult : Except Stop Nat → Outcome
  | .ok code => .finished code
  | .error (.refused _) => .finished 1
  | .error (.fault why) => .fault why

/-- **A request ends the program** as it ends itself, and the disk is as it leaves it. -/
theorem run_eq {w w' : Desk} {arguments : List Text} {verbose : Bool} {request : Request}
    {result : Except Stop Nat} (hread : Invocation.read arguments = .ok ⟨verbose, some request⟩)
    (hrequest : w.perform (runRequest verbose request) = (result, w')) :
    ((run arguments : StateM Desk Outcome).run w).1 = .ofResult result
      ∧ ((run arguments : StateM Desk Outcome).run w).2.disk = w'.disk := by
  rw [Desk.perform] at hrequest
  rw [run, hread]
  dsimp only
  rw [StateT.run_bind, hrequest]
  obtain (message | fault) | code := result <;> exact ⟨rfl, rfl⟩

/-- The ways in which writing a sheet as a MIDI file ends, with what is at the output then. -/
inductive MidiEnding (d : Disk) (input output : Path) (basePitch : Int) : Outcome → Disk → Prop
  | written {octets : List UInt8} {d' : Disk} : d.Exportable input basePitch →
      d.HasMidi input basePitch octets → d'.read output = .ok octets →
      MidiEnding d input output basePitch (.finished 0) d'
  | refused {d' : Disk} : d.Exportable input basePitch →
      (∀ octets, ¬d.HasMidi input basePitch octets) → (∀ octets, d'.read output ≠ .ok octets) →
      MidiEnding d input output basePitch (.finished 1) d'
  | faulted {why : Fault} {d' : Disk} : ¬d.Exportable input basePitch →
      (∀ octets, d'.read output ≠ .ok octets) →
      MidiEnding d input output basePitch (.fault why) d'
  /-- The name has no octets, and what came before it was written. -/
  | brokenOff {d' : Disk} : ¬d.Exportable input basePitch →
      d'.read output = .ok Midi.Exporter.header →
      MidiEnding d input output basePitch (.fault (.midiFile .nameEncoding)) d'

namespace MidiEnding

variable {d d' : Disk} {input output : Path} {basePitch : Int} {outcome : Outcome}

theorem finishes_iff (h : MidiEnding d input output basePitch outcome d') :
    (∃ code, outcome = .finished code) ↔ d.Exportable input basePitch := by
  cases h with
  | written hfaultless => exact iff_of_true ⟨_, rfl⟩ hfaultless
  | refused hfaultless => exact iff_of_true ⟨_, rfl⟩ hfaultless
  | faulted hfault => exact iff_of_false nofun hfault
  | brokenOff hfault => exact iff_of_false nofun hfault

/-- A sheet that has a file is written, unless it is a fault. -/
theorem read_of_hasMidi {octets : List UInt8} (h : MidiEnding d input output basePitch outcome d')
    (hfaultless : d.Exportable input basePitch) (hmidi : d.HasMidi input basePitch octets) :
    outcome = .finished 0 ∧ d'.read output = .ok octets := by
  cases h with
  | written _ hother hthere =>
    obtain rfl := Disk.hasMidi_unique hmidi hother
    exact ⟨rfl, hthere⟩
  | refused _ hnone => exact absurd hmidi (hnone octets)
  | faulted hfault => exact absurd hfaultless hfault
  | brokenOff hfault => exact absurd hfaultless hfault

end MidiEnding

section

variable {w : Desk} {input output : Text} {basePitch : Int} {score : Score} {t : Text}

/-- Where a score without a track stops a command. -/
def trackStop : Midi.TrackError → Stop
  | .sheet e => .refused e.message
  | e => .fault (.track e)

theorem perform_track (basePitch : Int) (score : Score) :
    w.perform (track (some basePitch) score)
      = ((({ basePitch } : Midi.Exporter).track score).mapError trackStop, w) := by
  simp only [track, Option.isNone_some, Bool.false_and, Bool.false_eq_true, if_false,
    Option.getD_some]
  cases ({ basePitch } : Midi.Exporter).track score with
  | ok events => rfl
  | error e => cases e <;> rfl

theorem perform_needText_midiRequest (ht : w.disk.text .utf8 (Path.ofText input) = .ok (.ok t)) :
    w.perform (needText (midiRequest input output basePitch).encoding
      (Path.ofText (midiRequest input output basePitch).input)) = (.ok t, w) :=
  Desk.perform_needText namesEncoding_utf8 ht

/-- A text that is no sheet is refused. -/
theorem perform_runMidi_of_no_score {e : ConversionError} (output : Text) (basePitch : Int)
    (ht : w.disk.text .utf8 (Path.ofText input) = .ok (.ok t))
    (hread : Registry.default.read (some (Path.ofText input).name) t = .error e) :
    ∃ log, w.perform (runMidi false (midiRequest input output basePitch))
      = (.error (.refused e.message), { w with log }) := by
  obtain ⟨log, hlog⟩ := Batch.onlyLogs_logRace false
    (Registry.default.race (some (Path.ofText input).name) t) w
  rw [Registry.read] at hread
  rw [runMidi, Desk.perform_bind_ok (perform_needText_midiRequest ht)]
  dsimp only [midiRequest]
  rw [Desk.perform_bind_ok hlog, hread]
  exact ⟨log, rfl⟩

/-- What is done with a score, once there is a directory for the output. -/
def exportScore (output : Path) (basePitch : Int) (score : Score) :
    ExceptT Stop (StateM Desk) Nat := do
  writeTrack output ({} : Midi.Exporter).ticksPerBeat (← track (some basePitch) score)
  log .midi .info (("MIDI written to " : Text) ++ output.display)
  return 0

/-- A sheet is exported to a directory that is made for it. -/
theorem perform_runMidi_of_score (basePitch : Int) (hfree : w.disk.IsFree (Path.ofText output))
    (hscore : w.disk.HasScore (Path.ofText input) score) :
    ∃ log, w.perform (runMidi false (midiRequest input output basePitch))
      = Desk.perform { w with disk := (w.disk.makeDirectory (Path.ofText output).parent).2, log }
          (exportScore (Path.ofText output) basePitch score) := by
  obtain ⟨t, ht, hread⟩ := hscore
  obtain ⟨log, hlog⟩ := Batch.onlyLogs_logRace false
    (Registry.default.race (some (Path.ofText input).name) t) w
  rw [Registry.read] at hread
  have hmade : ∀ log, ({ w with log } : Desk).perform
      (ask (Path.ofText output).parent (Host.makeDirectory (Path.ofText output).parent))
      = (.ok (), { w with disk := (w.disk.makeDirectory (Path.ofText output).parent).2, log }) := by
    intro log
    refine Desk.perform_ask hfree.nameable_parent ?_
    rw [Desk.run_makeDirectory, hfree.made]
  rw [runMidi, Desk.perform_bind_ok (perform_needText_midiRequest ht)]
  dsimp only [midiRequest]
  rw [Desk.perform_bind_ok hlog, hread]
  dsimp only
  rw [Desk.perform_bind_ok (Desk.perform_log _ _ _ _),
    Desk.perform_bind_ok (Desk.perform_textSetting rfl)]
  dsimp only
  rw [Desk.perform_bind_ok (hmade _)]
  exact ⟨_, rfl⟩

section ExportScore

variable {d : Disk} {p : Path} {events : List Midi.Event}

/-- What is written to a free path is there. -/
theorem perform_write_of_isFree (hfree : d.IsFree p) (hw : w.disk = (d.makeDirectory p.parent).2)
    (octets : List UInt8) :
    ∃ w', w.perform (ask p (Host.write p octets)) = (.ok (), w')
      ∧ w'.disk.read p = .ok octets := by
  obtain ⟨d', hwrite, hread⟩ := hfree.exists_write octets
  refine ⟨{ w with disk := d' }, Desk.perform_ask hfree.nameable ?_, hread⟩
  rw [Desk.run_write, hw, hwrite]

/-- A track with a file leaves the file. -/
theorem perform_exportScore_of_file {octets : List UInt8} (hfree : d.IsFree p)
    (hw : w.disk = (d.makeDirectory p.parent).2)
    (htrack : ({ basePitch } : Midi.Exporter).track score = .ok events)
    (hfile : Midi.file ({} : Midi.Exporter).ticksPerBeat events = .ok octets) :
    ∃ w', w.perform (exportScore p basePitch score) = (.ok 0, w')
      ∧ w'.disk.read p = .ok octets := by
  have hevents : w.perform (track (some basePitch) score) = (.ok events, w) := by
    rw [perform_track, htrack]
    rfl
  obtain ⟨w', hwrite, hread⟩ := perform_write_of_isFree hfree hw octets
  rw [exportScore, Desk.perform_bind_ok hevents, writeTrack, hfile]
  dsimp only
  rw [Desk.perform_bind_ok hwrite]
  exact ⟨_, rfl, hread⟩

/-- A track without a file leaves the first chunk of one. -/
theorem perform_exportScore_of_no_file {e : Midi.FileError} (hfree : d.IsFree p)
    (hw : w.disk = (d.makeDirectory p.parent).2)
    (htrack : ({ basePitch } : Midi.Exporter).track score = .ok events)
    (hfile : Midi.file ({} : Midi.Exporter).ticksPerBeat events = .error e) :
    ∃ w', w.perform (exportScore p basePitch score) = (.error (.fault (.midiFile e)), w')
      ∧ w'.disk.read p = .ok Midi.Exporter.header := by
  have hevents : w.perform (track (some basePitch) score) = (.ok events, w) := by
    rw [perform_track, htrack]
    rfl
  obtain ⟨w', hwrite, hread⟩ := perform_write_of_isFree hfree hw Midi.Exporter.header
  have hbroken : w.perform (writeTrack p ({} : Midi.Exporter).ticksPerBeat events)
      = (.error (.fault (.midiFile e)), w') := by
    rw [writeTrack, hfile]
    exact Desk.perform_bind_ok hwrite _
  rw [exportScore, Desk.perform_bind_ok hevents, Desk.perform_bind_error hbroken]
  exact ⟨w', rfl, hread⟩

/-- A score without a track leaves no file. -/
theorem perform_exportScore_of_no_track {e : Midi.TrackError}
    (htrack : ({ basePitch } : Midi.Exporter).track score = .error e) :
    w.perform (exportScore p basePitch score) = (.error (trackStop e), w) := by
  have hstop : w.perform (track (some basePitch) score) = (.error (trackStop e), w) := by
    rw [perform_track, htrack]
    rfl
  exact Desk.perform_bind_error hstop _

end ExportScore

/-- **How writing a score ends.** Reading it went well, so its heading, its pitches and its name are
left to go wrong, in this order. -/
theorem exists_ending_of_score {d : Disk} {input output : Path} (hfree : d.IsFree output)
    (hw : w.disk = (d.makeDirectory output.parent).2) (hscore : d.HasScore input score) :
    ∃ result w', w.perform (exportScore output basePitch score) = (result, w')
      ∧ MidiEnding d input output basePitch (.ofResult result) w'.disk := by
  have hruns := hscore.runs
  have hexportable : d.Exportable input basePitch ↔ _ := Disk.exportable_iff_of_hasScore hscore
  let exporter : Midi.Exporter := { basePitch }
  have hvelocity : 0 ≤ exporter.velocity ∧ exporter.velocity ≤ 127 := by norm_num [exporter]
  have hticks : 0 < exporter.ticksPerBeat := by norm_num [exporter]
  have hnone : ∀ octets, w.disk.read output ≠ .ok octets := by
    rw [hw]
    exact fun octets => hfree.read_made_ne_ok
  cases htrack : ({ basePitch } : Midi.Exporter).track score with
  | error e =>
    refine ⟨_, w, perform_exportScore_of_no_track htrack, ?_⟩
    rw [htrack] at hexportable
    -- The heading comes first: behind one, only a pitch can be wrong, and that is refused.
    by_cases hheading : score.HasHeading
    · obtain ⟨events, hevents⟩ := (Midi.exists_heading_iff hruns.bpm).mpr hheading
      obtain ⟨pitch, rfl⟩ := Midi.Exporter.error_of_track hvelocity hevents htrack
      refine .refused (hexportable.mpr ⟨hheading, nofun⟩) ?_ hnone
      rintro octets ⟨score', events', hscore', hevents', -⟩
      obtain rfl := Disk.hasScore_unique hscore hscore'
      cases htrack.symm.trans hevents'
    · obtain ⟨e', he, hsheet⟩ := Midi.Exporter.error_of_not_hasHeading hruns.bpm hheading
      obtain rfl := Except.error.inj (he.symm.trans htrack)
      have hstop : trackStop e' = .fault (.track e') := by
        cases e' with
        | sheet s => exact absurd rfl (hsheet s)
        | _ => rfl
      rw [hstop]
      exact .faulted (fun hall => hheading (hexportable.mp hall).1) hnone
  | ok events =>
    have hrates : ∀ b ∈ score.beats, 0 ≤ b.rate.value := fun b hb =>
      Rat.divInt_nonneg (hruns.rates b hb).1.le (hruns.rates b hb).2.le
    -- No clock runs backwards, so the name alone can keep the messages from having octets.
    obtain ⟨hnarrow, hwide⟩ := Midi.Exporter.file_track hticks hrates htrack
    rw [htrack] at hexportable
    by_cases hname : score.HasNarrowName
    · obtain ⟨octets, hfile⟩ := hnarrow hname
      obtain ⟨w', hperform, hthere⟩ := perform_exportScore_of_file hfree hw htrack hfile
      obtain ⟨named, hnamed, -⟩ := bind_eq_ok htrack
      have hheading := (Midi.exists_heading_iff hruns.bpm).mp ⟨named, hnamed⟩
      exact ⟨_, w', hperform, .written (hexportable.mpr ⟨hheading, fun _ _ => hname⟩)
        ⟨score, events, hscore, htrack, hfile⟩ hthere⟩
    · obtain ⟨w', hperform, hthere⟩ := perform_exportScore_of_no_file hfree hw htrack (hwide hname)
      exact ⟨_, w', hperform,
        .brokenOff (fun hall => hname ((hexportable.mp hall).2 events rfl)) hthere⟩

/-- **How writing a sheet as a MIDI file ends.** -/
theorem exists_ending (input : Text) (basePitch : Int)
    (hfree : w.disk.IsFree (Path.ofText output)) :
    ∃ result w', w.perform (runMidi false (midiRequest input output basePitch)) = (result, w')
      ∧ MidiEnding w.disk (Path.ofText input) (Path.ofText output) basePitch (.ofResult result)
        w'.disk := by
  have hnone : ∀ octets, w.disk.read (Path.ofText output) ≠ .ok octets :=
    fun octets => hfree.read_ne_ok
  -- What stops the command before there is a text stops it on the disk as it was.
  have hstop : ∀ stop, w.perform (needText (midiRequest input output basePitch).encoding
      (Path.ofText (midiRequest input output basePitch).input)) = (.error stop, w) →
      w.perform (runMidi false (midiRequest input output basePitch)) = (.error stop, w) :=
    fun stop h => Desk.perform_bind_error h _
  cases htext : w.disk.text .utf8 (Path.ofText input) with
  | error stop =>
    -- A file that is missing is a failure and no stop, so this is a fault.
    have hillegible : ¬w.disk.Legible .utf8 (Path.ofText input) := by
      intro hlegible
      obtain ⟨reading, hreading⟩ := Disk.exists_text hlegible
      cases htext.symm.trans hreading
    obtain ⟨why, hwhy⟩ := Disk.exists_fault hillegible
    obtain rfl := Except.error.inj (hwhy.symm.trans htext)
    refine ⟨_, w, hstop _ (Desk.perform_needText_of_stop namesEncoding_utf8 htext),
      .faulted (fun hall => ?_) hnone⟩
    obtain ⟨reading, hreading, -⟩ := Disk.readable_iff.mp ⟨hall.nameable, hall.decodable⟩
    cases htext.symm.trans hreading
  | ok reading =>
    obtain failure | t := reading
    · have hscore : ∀ score, ¬w.disk.HasScore (Path.ofText input) score := by
        rintro score ⟨t, ht, -⟩
        cases htext.symm.trans ht
      refine ⟨_, w, hstop _ (Desk.perform_needText_of_failure namesEncoding_utf8 htext), ?_⟩
      cases failure with
      | host e =>
        obtain ⟨hexportable, hmidi⟩ := Disk.exportable_of_not_hasScore htext nofun hscore
        exact .refused hexportable hmidi hnone
      | undecodable e =>
        refine .faulted (fun hall => ?_) hnone
        obtain ⟨reading, hreading, hne⟩ := Disk.readable_iff.mp ⟨hall.nameable, hall.decodable⟩
        exact hne e (Except.ok.inj (hreading.symm.trans htext))
    · cases hread : Registry.default.read (some (Path.ofText input).name) t with
      | error e =>
        have hscore : ∀ score, ¬w.disk.HasScore (Path.ofText input) score := by
          intro score h
          cases hread.symm.trans ((Disk.hasScore_iff htext).mp h)
        obtain ⟨hexportable, hmidi⟩ := Disk.exportable_of_not_hasScore htext nofun hscore
        obtain ⟨log, hperform⟩ := perform_runMidi_of_no_score output basePitch htext hread
        exact ⟨_, _, hperform, .refused hexportable hmidi hnone⟩
      | ok score =>
        have hscore := (Disk.hasScore_iff htext).mpr hread
        obtain ⟨log, hperform⟩ := perform_runMidi_of_score basePitch hfree hscore
        rw [hperform]
        exact exists_ending_of_score hfree rfl hscore

/-- **Writing a sheet as a MIDI file** to a free path ends in one of four ways, and it ends with a
code exactly where nothing about the sheet is a fault. -/
theorem midi_finishes_iff (basePitch : Int) (hinput : Text.after? "-" input = none)
    (houtput : Text.after? "-" output = none) (hfree : w.disk.IsFree (Path.ofText output)) :
    let ended := (run (midiArguments input output basePitch) : StateM Desk Outcome).run w
    MidiEnding w.disk (Path.ofText input) (Path.ofText output) basePitch ended.1 ended.2.disk
      ∧ ((∃ code, ended.1 = .finished code)
        ↔ w.disk.Exportable (Path.ofText input) basePitch) := by
  intro ended
  obtain ⟨result, w', hperform, hends⟩ := exists_ending input basePitch hfree
  obtain ⟨hended, hdisk⟩ := run_eq (read_midiArguments hinput houtput basePitch) hperform
  rw [show ended.1 = _ from hended, show ended.2.disk = _ from hdisk]
  exact ⟨hends, hends.finishes_iff⟩

/-- A sheet of one note, which is due at once. -/
def oneNote : Text :=
  ("[\x7b\"name\":\"a\",\"pitchLevel\":0,\"bpm\":60," : Text)
    ++ ("\"songNotes\":[\x7b\"time\":0,\"key\":\"1Key0\"\x7d]\x7d]" : Text)

/-- The messages of that sheet from middle C. -/
def oneNoteTrack : List Midi.Event :=
  [⟨0, .trackName "a"⟩, ⟨0, .tempo 1000000⟩, ⟨0, .noteOn 60 80⟩, ⟨1920, .noteOff 60⟩]

/-- The file of these messages: in it is a chunk of six octets, and one of 25. -/
def oneNoteFile : List UInt8 :=
  Midi.ascii "MThd" ++ [0, 0, 0, 6, 0, 1, 0, 1, 1, 224]
    ++ Midi.ascii "MTrk" ++ [0, 0, 0, 25, 0, 255, 3, 1, 97, 0, 255, 81, 3, 15, 66, 64,
      0, 144, 60, 80, 143, 0, 128, 60, 0, 0, 255, 47, 0]

/-- The sheet of one note is written. -/
theorem midi_finishes_iff_sample :
    let w := Batch.deskOf [("a.txt", oneNote)]
    Text.after? "-" "a.txt" = none ∧ Text.after? "-" "midi/a.mid" = none
      ∧ w.disk.IsFree (Path.ofText "midi/a.mid")
      ∧ ((run (midiArguments "a.txt" "midi/a.mid" 60) : StateM Desk Outcome).run w).1 = .finished 0
      ∧ ((run (midiArguments "a.txt" "midi/a.mid" 60) : StateM Desk Outcome).run w).2.disk.read
          (Path.ofText "midi/a.mid")
        = .ok oneNoteFile := by
  intro w
  have hinput : Text.after? "-" "a.txt" = none := by decide
  have houtput : Text.after? "-" "midi/a.mid" = none := by decide
  have hfree : w.disk.IsFree (Path.ofText "midi/a.mid") :=
    ⟨by decide, by decide +kernel, Path.ofText "midi/a.mid", by decide +kernel, by decide +kernel⟩
  let score : Score := { name := .string "a", bpm := 60, beats := [⟨⟨4, 1, by decide⟩, [0]⟩] }
  have hscore : w.disk.HasScore (Path.ofText "a.txt") score :=
    ⟨oneNote, by decide +kernel, by decide +kernel⟩
  have hname : score.HasNarrowName := by
    rintro name ⟨⟩
    decide
  have hexportable : w.disk.Exportable (Path.ofText "a.txt") 60 :=
    (Disk.exportable_iff_of_hasScore hscore).mpr
      ⟨⟨fun _ => ⟨"a", rfl⟩, by decide, by decide +kernel⟩, fun _ _ => hname⟩
  have hmidi : w.disk.HasMidi (Path.ofText "a.txt") 60 oneNoteFile :=
    ⟨score, oneNoteTrack, hscore, by decide +kernel, by decide +kernel⟩
  obtain ⟨hends, -⟩ := midi_finishes_iff 60 hinput houtput hfree
  exact ⟨hinput, houtput, hfree, hends.read_of_hasMidi hexportable hmidi⟩

/-- **Octets that are no text are a fault.** -/
theorem not_every_midi_finishes : ¬∀ (w : Desk) (input output : Text) (basePitch : Int),
    Text.after? "-" input = none → Text.after? "-" output = none →
    w.disk.IsFree (Path.ofText output) →
    let ended := (run (midiArguments input output basePitch) : StateM Desk Outcome).run w
    (ended.1 = .finished 0 ∧ ∃ octets, w.disk.HasMidi (Path.ofText input) basePitch octets
        ∧ ended.2.disk.read (Path.ofText output) = .ok octets)
      ∨ (ended.1 = .finished 1
        ∧ ∀ octets, ended.2.disk.read (Path.ofText output) ≠ .ok octets) := by
  intro h
  let w : Desk := { disk := ⟨[(Path.ofText "a.txt", .file [0xFF])]⟩ }
  have hinput : Text.after? "-" "a.txt" = none := by decide
  have houtput : Text.after? "-" "out.mid" = none := by decide
  have hfree : w.disk.IsFree (Path.ofText "out.mid") :=
    ⟨by decide, by decide +kernel, Path.ofText "out.mid", by decide +kernel, by decide +kernel⟩
  have hundecodable : ¬w.disk.Exportable (Path.ofText "a.txt") 60 := by
    intro hall
    have hread : w.disk.read (Path.ofText "a.txt") = .ok [0xFF] := by decide +kernel
    have hdecode : ¬(Utf8.decode [0xFF]).isOk = true := by decide
    obtain ⟨t, ht⟩ := hall.decodable _ hread
    rw [ht] at hdecode
    exact hdecode rfl
  obtain ⟨result, w', hperform, hends⟩ := exists_ending "a.txt" 60 hfree
  obtain ⟨hended, -⟩ := run_eq (read_midiArguments hinput houtput 60) hperform
  have hfault := mt hends.finishes_iff.mp hundecodable
  rcases h w "a.txt" "out.mid" 60 hinput houtput hfree with ⟨hcode, -⟩ | ⟨hcode, -⟩
  · exact hfault ⟨0, hended.symm.trans hcode⟩
  · exact hfault ⟨1, hended.symm.trans hcode⟩

end

end Command

end SongSheet
