import SongSheet.Batch
import SongSheet.Proofs.Command.Step

/-!
# Batches — one file's turn

What converting a file comes to is a matter of the disk alone (`Plan.outcome`): it reads, and the
rest of it is a function of the text. What a file's turn does to the disk follows from that
(`Plan.turn`): it writes at most one text, the sheet or the words for the failure (`Plan.product?`).
**A turn comes to its end exactly when reading the file and encoding that text do**
(`perform_processFile`, `perform_processFile_of_not_survives`).
-/

set_option autoImplicit false

namespace SongSheet.Batch

open Command

variable {p : Plan} {e : Encoding} {d : Disk} {w : Desk} {input : Path}

/-! ## 1. What a file comes to -/

/-- What reading and converting a file comes to on a disk, by itself. -/
def Plan.outcome (p : Plan) (d : Disk) (input : Path) : Except Stop (Except Text Text) :=
  (({ disk := d } : Desk).perform (convertFile p input)).1

/-- The sheet that a text comes to, or the words for why it comes to none. -/
def Plan.sheet (p : Plan) (input : Path) (t : Text) : Except Text Text :=
  (p.registry.convert p.label (some input.name) p.keyLayout t).mapError (·.message)

theorem onlyLogs_logRace (verbose : Bool) (race : Race) : OnlyLogs (logRace verbose race) := by
  rw [logRace]
  refine (onlyLogs_forIn fun x => onlyLogs_logDetail _ _ _).bind ?_
  split
  · exact onlyLogs_pure
  · exact onlyLogs_logDetail _ _ _

theorem onlyLogs_logConversion (verbose : Bool) (conversion : Conversion) :
    OnlyLogs (logConversion verbose conversion) := by
  rw [logConversion]
  refine (onlyLogs_logRace _ _).bind ?_
  split
  · split
    · exact onlyLogs_logDetail _ _ _
    · exact onlyLogs_pure
  · exact onlyLogs_pure

theorem onlyLooks_convertFile (p : Plan) (input : Path) : OnlyLooks (convertFile p input) := by
  rw [convertFile]
  refine (onlyLooks_readText _ _).bind fun result => ?_
  split
  · exact onlyLooks_pure _
  · refine (onlyLogs_logConversion _ _).onlyLooks.bind fun _ => ?_
    split
    · exact onlyLooks_pure _
    · exact onlyLooks_pure _

/-- **Converting a file does nothing but log, and comes to what the file comes to by itself.** -/
theorem perform_convertFile (p : Plan) (w : Desk) (input : Path) :
    ∃ log, w.perform (convertFile p input) = (p.outcome w.disk input, { w with log }) :=
  onlyLooks_convertFile p input w

/-- What a file comes to, by what is read of it. -/
def Plan.ofReading (p : Plan) (input : Path) :
    Except Stop (Except ReadFailure Text) → Except Stop (Except Text Text)
  | .error stop => .error stop
  | .ok (.error failure) => .ok (.error failure.message)
  | .ok (.ok t) => .ok (p.sheet input t)

theorem perform_convertFile_eq (h : NamesEncoding p.encoding e) (w : Desk) (input : Path) :
    ∃ log, w.perform (convertFile p input)
      = (p.ofReading input (w.disk.text e input), { w with log }) := by
  have hread : w.perform (readText p.encoding input) = (w.disk.text e input, w) :=
    Desk.perform_readText h
  rw [convertFile]
  cases htext : w.disk.text e input with
  | error stop =>
    rw [htext] at hread
    exact ⟨w.log, Desk.perform_bind_error hread _⟩
  | ok result =>
    rw [htext] at hread
    rw [Desk.perform_bind_ok hread]
    cases result with
    | error failure => exact ⟨w.log, rfl⟩
    | ok t =>
      let conversion := p.registry.conversion p.label (some input.name) p.keyLayout t
      obtain ⟨log, hlog⟩ := onlyLogs_logConversion p.verbose conversion w
      refine ⟨log, (Desk.perform_bind_ok hlog _).trans ?_⟩
      have hsheet : p.sheet input t
          = (conversion.result.map (·.text)).mapError (·.message) := rfl
      rw [Plan.ofReading, hsheet]
      cases conversion.result <;> rfl

/-- By itself a file comes to what its text comes to. -/
theorem outcome_eq (h : NamesEncoding p.encoding e) :
    p.outcome d input = p.ofReading input (d.text e input) := by
  obtain ⟨log, hperform⟩ := perform_convertFile_eq h { disk := d } input
  rw [Plan.outcome, hperform]

theorem exists_outcome (h : NamesEncoding p.encoding e) (hlegible : d.Legible e input) :
    ∃ result, p.outcome d input = .ok result := by
  obtain ⟨reading, htext⟩ := Disk.exists_text hlegible
  rw [outcome_eq h, htext]
  cases reading <;> exact ⟨_, rfl⟩

/-- A file comes to the same wherever the same is read of it. -/
theorem outcome_congr {d' : Disk} (h : NamesEncoding p.encoding e)
    (hread : d'.read input = d.read input) : p.outcome d' input = p.outcome d input := by
  rw [outcome_eq h, outcome_eq h, Disk.text_congr hread]

/-! ## 2. What a turn writes -/

/-- Whether a file comes to no sheet by itself. -/
def Plan.fails (p : Plan) (d : Disk) (input : Path) : Bool :=
  match p.outcome d input with
  | .ok (.ok _) => false
  | _ => true

/-- What is to be written of a file, and where: the sheet that it comes to, or the words for its
failure. -/
def Plan.product? (p : Plan) (d : Disk) (input : Path) : Option (Path × Text) :=
  match p.outcome d input with
  | .ok (.ok sheet) => some (p.target input, sheet)
  | .ok (.error message) => if p.errorLogs then some (p.errorLog input, message) else none
  | .error _ => none

/-- The disk after the turn of a file. -/
def Plan.turn (p : Plan) (d : Disk) (input : Path) : Disk :=
  match p.product? d input with
  | some (path, t) => d.store path t
  | none => d

/-- A turn comes to its end: nothing but a reported failure can come of reading the file, and what
is to be written of it has octets. -/
structure Plan.Survives (p : Plan) (e : Encoding) (d : Disk) (input : Path) : Prop where
  legible : d.Legible e input
  encodable : ∀ path t, p.product? d input = some (path, t) → ∃ octets, Utf8.encode t = some octets

/-- What is to be written of a file can be written. -/
def Plan.HasRoom (p : Plan) (d : Disk) (input : Path) : Prop :=
  ∀ path t, p.product? d input = some (path, t) → d.Writable path

section Products

variable {sheet message : Text}

theorem product?_sheet (h : p.outcome d input = .ok (.ok sheet)) :
    p.product? d input = some (p.target input, sheet) := by
  rw [Plan.product?, h]

theorem product?_message (h : p.outcome d input = .ok (.error message)) :
    p.product? d input = if p.errorLogs then some (p.errorLog input, message) else none := by
  rw [Plan.product?, h]

end Products

/-- What is to be written of a file is written, whatever was logged before. -/
theorem perform_product (hsurvives : p.Survives e w.disk input) (hroom : p.HasRoom w.disk input)
    {path : Path} {t : Text} (hproduct : p.product? w.disk input = some (path, t))
    (log : List LogRecord) :
    ({ w with log } : Desk).perform (writeText path t)
      = (.ok (), { w with disk := w.disk.store path t, log }) := by
  obtain ⟨octets, hencode⟩ := hsurvives.encodable path t hproduct
  exact Desk.perform_writeText (hroom path t hproduct) hencode

/-- **The turn of a file comes to its end**, and what it leaves is a matter of the disk. -/
theorem perform_processFile (h : NamesEncoding p.encoding e) (hsurvives : p.Survives e w.disk input)
    (hroom : p.HasRoom w.disk input) :
    ∃ log, w.perform (processFile p input)
      = (.ok (if p.fails w.disk input then 1 else 0),
        { w with disk := p.turn w.disk input, log }) := by
  obtain ⟨log, hconvert⟩ := perform_convertFile p w input
  obtain ⟨result, houtcome⟩ := exists_outcome h hsurvives.legible
  rw [houtcome] at hconvert
  rw [processFile, Desk.perform_bind_ok hconvert, Plan.turn, Plan.fails, houtcome]
  cases result with
  | ok sheet =>
    have hproduct := product?_sheet houtcome
    rw [hproduct]
    exact ⟨_, Desk.perform_bind_ok (perform_product hsurvives hroom hproduct _) _⟩
  | error message =>
    have hproduct := product?_message houtcome
    dsimp only
    rw [Desk.perform_bind_ok (Desk.perform_log _ _ _ _)]
    by_cases hlogs : p.errorLogs
    · rw [if_pos hlogs] at hproduct
      rw [if_pos hlogs, hproduct]
      exact ⟨_, Desk.perform_bind_ok (perform_product hsurvives hroom hproduct _) _⟩
    · rw [if_neg hlogs] at hproduct
      rw [if_neg hlogs, hproduct]
      exact ⟨_, rfl⟩

/-- **A turn that comes to its end** has written what is to be written of the file, and tells
whether the file failed. -/
theorem of_perform_processFile {failed : Nat} {w' : Desk}
    (h : w.perform (processFile p input) = (.ok failed, w')) :
    (∀ text ∈ p.product? w.disk input, w.disk.Storable text)
      ∧ failed = (if p.fails w.disk input then 1 else 0) ∧ w'.disk = p.turn w.disk input := by
  obtain ⟨log, hconvert⟩ := perform_convertFile p w input
  rw [processFile] at h
  rw [Plan.turn, Plan.fails]
  cases houtcome : p.outcome w.disk input with
  | error stop =>
    rw [houtcome] at hconvert
    rw [Desk.perform_bind_error hconvert] at h
    cases h
  | ok result =>
    rw [houtcome] at hconvert
    rw [Desk.perform_bind_ok hconvert] at h
    cases result with
    | ok sheet =>
      obtain ⟨⟨⟩, next, hwrite, h⟩ := Desk.of_perform_bind h
      obtain ⟨hstorable, rfl⟩ := Desk.of_perform_writeText hwrite
      cases h
      rw [product?_sheet houtcome]
      exact ⟨fun text htext => Option.some.inj htext ▸ hstorable, rfl, rfl⟩
    | error message =>
      have hproduct := product?_message houtcome
      dsimp only at h
      rw [Desk.perform_bind_ok (Desk.perform_log _ _ _ _)] at h
      by_cases hlogs : p.errorLogs
      · rw [if_pos hlogs] at h hproduct
        obtain ⟨⟨⟩, next, hwrite, h⟩ := Desk.of_perform_bind h
        obtain ⟨hstorable, rfl⟩ := Desk.of_perform_writeText hwrite
        cases h
        rw [hproduct]
        exact ⟨fun text htext => Option.some.inj htext ▸ hstorable, rfl, rfl⟩
      · rw [if_neg hlogs] at h hproduct
        cases h
        rw [hproduct]
        exact ⟨nofun, rfl, rfl⟩

/-- **The turn of any other file is a fault**, which ends the batch. -/
theorem perform_processFile_of_not_survives (h : NamesEncoding p.encoding e)
    (hsurvives : ¬p.Survives e w.disk input) (hroom : p.HasRoom w.disk input) :
    ∃ fault w', w.perform (processFile p input) = (.error (.fault fault), w') := by
  obtain ⟨log, hconvert⟩ := perform_convertFile p w input
  -- Either reading is the fault, or what is to be written has no octets.
  by_cases hlegible : w.disk.Legible e input
  · have hencode : ∃ path t, p.product? w.disk input = some (path, t) ∧ Utf8.encode t = none := by
      by_contra hnone
      refine hsurvives ⟨hlegible, fun path t hproduct => ?_⟩
      refine Option.ne_none_iff_exists'.mp fun hencode => hnone ⟨path, t, hproduct, hencode⟩
    obtain ⟨path, t, hproduct, hencode⟩ := hencode
    have hwrite : ∀ log, ∃ w', ({ w with log } : Desk).perform (writeText path t)
        = (.error (.fault .unencodable), w') :=
      fun log => Desk.perform_writeText_of_unencodable (hroom path t hproduct) hencode
    obtain ⟨result, houtcome⟩ := exists_outcome h hlegible
    rw [houtcome] at hconvert
    rw [processFile, Desk.perform_bind_ok hconvert]
    cases result with
    | ok sheet =>
      rw [product?_sheet houtcome] at hproduct
      cases hproduct
      obtain ⟨w', hwrite⟩ := hwrite log
      exact ⟨_, w', Desk.perform_bind_error hwrite _⟩
    | error message =>
      rw [product?_message houtcome] at hproduct
      dsimp only
      rw [Desk.perform_bind_ok (Desk.perform_log _ _ _ _)]
      split at hproduct
      case isTrue hlogs =>
        cases hproduct
        rw [if_pos hlogs]
        obtain ⟨w', hwrite⟩ := hwrite _
        exact ⟨_, w', Desk.perform_bind_error hwrite _⟩
      case isFalse => cases hproduct
  · obtain ⟨fault, htext⟩ := Disk.exists_fault hlegible
    rw [outcome_eq h, htext] at hconvert
    exact ⟨fault, _, Desk.perform_bind_error hconvert _⟩

/-- **A path that names nothing is a fault too**, before anything is written. -/
theorem perform_processFile_of_fault {fault : Path.Fault} (h : NamesEncoding p.encoding e)
    (hfault : input.fault? = some fault) :
    ∃ log, w.perform (processFile p input) = (.error fault.stop, { w with log }) := by
  obtain ⟨log, hconvert⟩ := perform_convertFile p w input
  have htext : w.disk.text e input = .error fault.stop := by rw [Disk.text, hfault]
  rw [outcome_eq h, htext] at hconvert
  exact ⟨log, Desk.perform_bind_error hconvert _⟩

end SongSheet.Batch
