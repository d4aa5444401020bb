import Mathlib.Data.List.Induction
import SongSheet.Command.Step
import SongSheet.Proofs.Host.Disk

/-!
# Steps of a command on a desk

A command is a sequence of steps on a host, and on a desk it is a function: `Desk.perform` is what
comes of it and the desk that it leaves. Each step does one thing to the desk. Reading a text does
nothing to it, and what comes of it is a matter of the disk alone (`Disk.text`, `perform_readText`);
writing a text puts a file on the disk (`perform_writeText`); logging only adds to the log
(`OnlyLogs`), and what only looks leaves the disk as it is (`OnlyLooks`).
-/

set_option autoImplicit false

namespace SongSheet

open Command

/-! ## 1. Performing steps -/

/-- What comes of steps on a desk, and the desk after them. -/
def Desk.perform {α : Type} (w : Desk) (steps : ExceptT Stop (StateM Desk) α) :
    Except Stop α × Desk :=
  steps.run.run w

namespace Desk

variable {α β : Type} {w : Desk}

theorem perform_of_fst {steps : ExceptT Stop (StateM Desk) α} {result : Except Stop α}
    (h : (w.perform steps).1 = result) : w.perform steps = (result, (w.perform steps).2) :=
  Prod.ext h rfl

/-- Steps follow each other until one of them stops. -/
theorem perform_bind (steps : ExceptT Stop (StateM Desk) α)
    (next : α → ExceptT Stop (StateM Desk) β) :
    w.perform (steps >>= next)
      = match w.perform steps with
        | (.ok a, w') => w'.perform (next a)
        | (.error stop, w') => (.error stop, w') := by
  simp only [perform, ExceptT.run_bind, StateT.run_bind]
  cases StateT.run steps.run w with
  | mk result w' => cases result <;> rfl

theorem perform_bind_ok {steps : ExceptT Stop (StateM Desk) α} {w' : Desk} {a : α}
    (h : w.perform steps = (.ok a, w')) (next : α → ExceptT Stop (StateM Desk) β) :
    w.perform (steps >>= next) = w'.perform (next a) := by
  rw [perform_bind, h]

theorem perform_bind_error {steps : ExceptT Stop (StateM Desk) α} {w' : Desk} {stop : Stop}
    (h : w.perform steps = (.error stop, w')) (next : α → ExceptT Stop (StateM Desk) β) :
    w.perform (steps >>= next) = (.error stop, w') := by
  rw [perform_bind, h]

theorem of_perform_bind {steps : ExceptT Stop (StateM Desk) α}
    {next : α → ExceptT Stop (StateM Desk) β} {b : β} {w'' : Desk}
    (h : w.perform (steps >>= next) = (.ok b, w'')) :
    ∃ a w', w.perform steps = (.ok a, w') ∧ w'.perform (next a) = (.ok b, w'') := by
  rw [perform_bind] at h
  split at h
  case h_1 a w' hsteps => exact ⟨a, w', hsteps, h⟩
  case h_2 => cases h

theorem run_read (p : Path) :
    (Host.read p : StateM Desk _).run w = (w.disk.read p, w) := rfl

theorem run_write (p : Path) (octets : List UInt8) :
    (Host.write p octets : StateM Desk _).run w
      = match w.disk.write p octets with
        | .ok disk => (.ok (), { w with disk })
        | .error e => (.error e, w) := by
  show StateT.run (change (w.disk.write p octets)) w = _
  cases w.disk.write p octets <;> rfl

theorem run_makeDirectory (p : Path) :
    (Host.makeDirectory p : StateM Desk _).run w
      = ((w.disk.makeDirectory p).1, { w with disk := (w.disk.makeDirectory p).2 }) := rfl

end Desk

/-! ## 2. Reading -/

/-- Where a path that names nothing stops a command. -/
def Path.Fault.stop : Path.Fault → Stop
  | .surrogate => .fault .unencodable
  | .nullCharacter => .fault .nullCharacter

/-- Where a file that gives no text stops a command that needs it. -/
def Command.ReadFailure.stop : ReadFailure → Stop
  | host e => .refused e.message
  | undecodable e => .fault (.undecodable e)

/-- A setting names an encoding, in characters that the host takes. -/
def NamesEncoding (setting : Yaml.Value) (e : Encoding) : Prop :=
  ∃ name, setting.text? = some name ∧ (∀ c ∈ name, c.isSurrogate = false ∧ c.val ≠ 0)
    ∧ Encoding.ofName? name = some e

theorem Text.ofString_injective : Function.Injective Text.ofString := fun _ _ h =>
  String.toList_injective (List.map_injective_iff.mpr (fun _ _ => CodePoint.ofChar_inj.mp) h)

/-- UTF-8 goes by its own name, as no encoding has that for another name. -/
theorem namesEncoding_utf8 : NamesEncoding (("utf-8" : Text) : Yaml.Value) .utf8 := by
  have hplain : Encoding.plainFrom false false "utf-8" = "utf_8" := by decide
  have hpoints : Encoding.withoutPoints "utf_8" = "utf_8" := by decide
  have hothers : ∀ e ∈ Encoding.all, ∀ a ∈ e.aliases, a ≠ "utf_8" := by decide +kernel
  have hnone : Encoding.all.find? (fun e => e.aliases.any fun (a : String) =>
      Text.ofString a = "utf_8" || Text.ofString a = Encoding.withoutPoints "utf_8") = none := by
    refine List.find?_eq_none.mpr fun e he hany => ?_
    obtain ⟨a, ha, heq⟩ := List.any_eq_true.mp hany
    rw [hpoints, Bool.or_self, decide_eq_true_iff] at heq
    exact hothers e he a ha (Text.ofString_injective heq)
  refine ⟨"utf-8", rfl, by decide, ?_⟩
  rw [Encoding.ofName?, if_neg (by decide), Encoding.find?, hplain, hnone]
  rfl

/-- An encoding that fails on some octets only takes every form. -/
theorem Encoding.decode_ofDecoder_ne_form (name : String) (aliases : List String)
    (decode : List UInt8 → Except DecodeError Text) (octets : List UInt8) :
    (ofDecoder name aliases decode).decode octets ≠ .error .form := by
  show (decode octets).mapError DecodeFailure.octets ≠ .error .form
  cases decode octets <;> exact nofun

/-- What comes of octets that are read as text. -/
def Encoding.text (e : Encoding) (octets : List UInt8) : Except Stop (Except ReadFailure Text) :=
  match e.decode octets with
  | .ok t => .ok (.ok (Text.unixLines t))
  | .error (.octets failure) => .ok (.error (.undecodable failure))
  | .error .form => .error (.fault .textForm)

/-- What comes of reading a path as text. -/
def Disk.text (d : Disk) (e : Encoding) (path : Path) : Except Stop (Except ReadFailure Text) :=
  match path.fault? with
  | some fault => .error fault.stop
  | none =>
    match d.read path with
    | .error failure => .ok (.error (.host failure))
    | .ok octets => e.text octets

/-- A path that names something, and what is there, if anything, has the form of an encoding. -/
def Disk.Legible (d : Disk) (e : Encoding) (path : Path) : Prop :=
  path.fault? = none ∧ ∀ octets, d.read path = .ok octets → e.decode octets ≠ .error .form

/-- Reading such a path goes on, if only with a failure. -/
theorem Disk.exists_text {d : Disk} {e : Encoding} {path : Path} (h : d.Legible e path) :
    ∃ result, d.text e path = .ok result := by
  obtain ⟨hpath, hform⟩ := h
  rw [Disk.text, hpath]
  cases hread : d.read path with
  | error failure => exact ⟨_, rfl⟩
  | ok octets =>
    have hdecode := hform octets hread
    show ∃ result, e.text octets = .ok result
    rw [Encoding.text]
    split
    · exact ⟨_, rfl⟩
    · exact ⟨_, rfl⟩
    · contradiction

/-- Reading any other path is a fault. -/
theorem Disk.exists_fault {d : Disk} {e : Encoding} {path : Path} (h : ¬d.Legible e path) :
    ∃ fault, d.text e path = .error (.fault fault) := by
  rw [Disk.text]
  cases hpath : path.fault? with
  | some fault => cases fault <;> exact ⟨_, rfl⟩
  | none =>
    have hform : ∃ octets, d.read path = .ok octets ∧ e.decode octets = .error .form := by
      by_contra hnone
      exact h ⟨hpath, fun octets hread hdecode => hnone ⟨octets, hread, hdecode⟩⟩
    obtain ⟨octets, hread, hdecode⟩ := hform
    rw [hread]
    show ∃ fault, e.text octets = .error (.fault fault)
    rw [Encoding.text, hdecode]
    exact ⟨_, rfl⟩

theorem Disk.text_congr {d d' : Disk} {e : Encoding} {path : Path}
    (h : d'.read path = d.read path) : d'.text e path = d.text e path := by
  rw [Disk.text, h, Disk.text]

namespace Desk

variable {α : Type} {w : Desk} {path : Path} {setting : Yaml.Value} {e : Encoding}

theorem perform_attempt (h : path.fault? = none) (action : StateM Desk (Except HostError α)) :
    w.perform (attempt path action) = (.ok (action.run w).1, (action.run w).2) := by
  rw [attempt, h]
  rfl

theorem perform_attempt_of_fault {fault : Path.Fault} (h : path.fault? = some fault)
    (action : StateM Desk (Except HostError α)) :
    w.perform (attempt path action) = (.error fault.stop, w) := by
  rw [attempt, h]
  cases fault <;> rfl

theorem perform_ask {answer : α} {w' : Desk} {action : StateM Desk (Except HostError α)}
    (h : path.fault? = none) (haction : action.run w = (.ok answer, w')) :
    w.perform (ask path action) = (.ok answer, w') := by
  have hattempt := perform_attempt (w := w) h action
  rw [haction] at hattempt
  exact perform_bind_ok hattempt _

theorem of_perform_ask {answer : α} {w' : Desk} {action : StateM Desk (Except HostError α)}
    (h : w.perform (ask path action) = (.ok answer, w')) :
    path.fault? = none ∧ action.run w = (.ok answer, w') := by
  obtain ⟨result, next, hattempt, h⟩ := of_perform_bind h
  cases hfault : path.fault? with
  | some fault =>
    rw [perform_attempt_of_fault hfault] at hattempt
    cases hattempt
  | none =>
    rw [perform_attempt hfault] at hattempt
    cases hattempt
    split at h
    case h_1 value hvalue =>
      cases h
      exact ⟨rfl, Prod.ext hvalue rfl⟩
    case h_2 => cases h

theorem perform_textSetting {t : Text} (h : setting.text? = some t) :
    w.perform (textSetting setting) = (.ok t, w) := by
  rw [textSetting, h]
  rfl

theorem perform_encodingSetting {name : Text} (h : setting.text? = some name)
    (hname : ∀ c ∈ name, c.isSurrogate = false ∧ c.val ≠ 0) :
    w.perform (encodingSetting setting) = (.ok name, w) := by
  have hsurrogates : ¬name.any CodePoint.isSurrogate = true := by
    simpa using fun c hc => (hname c hc).1
  have hnull : ¬(name.any (·.val = 0)) = true := by
    simpa using fun c hc => (hname c hc).2
  refine (perform_bind_ok (perform_textSetting h) _).trans ?_
  rw [if_neg hsurrogates, if_neg hnull]
  rfl

/-- **Reading a text does nothing to the desk**, and what comes of it is a matter of the disk. -/
theorem perform_readText (h : NamesEncoding setting e) :
    w.perform (readText setting path) = (w.disk.text e path, w) := by
  obtain ⟨name, htext, hname, hencoding⟩ := h
  refine (perform_bind_ok (perform_encodingSetting htext hname) _).trans ?_
  rw [Disk.text]
  cases hfault : path.fault? with
  | some fault => exact perform_bind_error (perform_attempt_of_fault hfault _) _
  | none =>
    refine (perform_bind_ok (perform_attempt hfault _) _).trans ?_
    rw [run_read]
    cases w.disk.read path with
    | error failure => rfl
    | ok octets =>
      simp only [hencoding, Encoding.text]
      cases e.decode octets with
      | ok t => rfl
      | error failure => cases failure <;> rfl

/-- A text that the command needs is there if it can be read. -/
theorem perform_needText {t : Text} (h : NamesEncoding setting e)
    (ht : w.disk.text e path = .ok (.ok t)) :
    w.perform (needText setting path) = (.ok t, w) := by
  have hread : w.perform (readText setting path) = (w.disk.text e path, w) :=
    perform_readText h
  rw [ht] at hread
  exact perform_bind_ok hread _

/-- A text that the command needs stops it if there is none. -/
theorem perform_needText_of_failure {failure : ReadFailure} (h : NamesEncoding setting e)
    (ht : w.disk.text e path = .ok (.error failure)) :
    w.perform (needText setting path) = (.error failure.stop, w) := by
  have hread : w.perform (readText setting path) = (w.disk.text e path, w) :=
    perform_readText h
  rw [ht] at hread
  refine (perform_bind_ok hread _).trans ?_
  cases failure <;> rfl

theorem perform_needText_of_stop {stop : Stop} (h : NamesEncoding setting e)
    (ht : w.disk.text e path = .error stop) :
    w.perform (needText setting path) = (.error stop, w) := by
  have hread : w.perform (readText setting path) = (w.disk.text e path, w) :=
    perform_readText h
  rw [ht] at hread
  exact perform_bind_error hread _

/-! ## 3. Writing -/

end Desk

/-- The disk after a text was written to a path; as it was where that fails. -/
def Disk.store (d : Disk) (path : Path) (t : Text) : Disk :=
  match Utf8.encode t with
  | some octets => ((d.write path octets).toOption).getD d
  | none => d

theorem Disk.store_eq {d : Disk} {path q : Path} {t : Text} {octets : List UInt8}
    (hplace : d.place path = .ok q) (hfree : d.at? q ≠ some .directory)
    (hencode : Utf8.encode t = some octets) : d.store path t = d.put q (.file octets) := by
  rw [Disk.store, hencode]
  show (d.write path octets).toOption.getD d = _
  rw [Disk.write_eq hplace hfree]
  rfl

/-- A text that is written leaves the directories as they are. -/
theorem Disk.sameDirectories_store {d : Disk} {path : Path} (h : d.Writable path) (t : Text) :
    d.SameDirectories (d.store path t) := by
  obtain ⟨-, q, hplace, hfree⟩ := h
  cases hencode : Utf8.encode t with
  | none =>
    rw [Disk.store, hencode]
    exact .refl d
  | some octets =>
    rw [Disk.store_eq hplace hfree hencode]
    exact Disk.sameDirectories_put hfree octets

/-- The disk after texts were written to paths, one after the other. -/
def Disk.storeAll (d : Disk) (texts : List (Path × Text)) : Disk :=
  texts.foldl (fun d (text : Path × Text) => d.store text.1 text.2) d

/-- The octets of a text and the place where its path leads. -/
def Disk.file? (d : Disk) (text : Path × Text) : Option (Path × List UInt8) := do
  let q ← (d.place text.1).toOption
  let octets ← Utf8.encode text.2
  return (q, octets)

/-- A text that can be written: it has octets, and a file can be made at its path. -/
def Disk.Storable (d : Disk) (text : Path × Text) : Prop :=
  d.Writable text.1 ∧ ∃ octets, Utf8.encode text.2 = some octets

theorem Disk.Storable.file? {d : Disk} {text : Path × Text} (h : d.Storable text) :
    ∃ q octets, d.file? text = some (q, octets) ∧ d.place text.1 = .ok q
      ∧ d.at? q ≠ some .directory ∧ Utf8.encode text.2 = some octets := by
  obtain ⟨⟨-, q, hplace, hfree⟩, octets, hencode⟩ := h
  refine ⟨q, octets, ?_, hplace, hfree, hencode⟩
  rw [Disk.file?, hplace, hencode]
  rfl

/-- **Texts that can be written are put on the disk as files**, each where its path leads. -/
theorem Disk.storeAll_eq {d : Disk} {texts : List (Path × Text)}
    (h : ∀ text ∈ texts, d.Storable text) :
    d.storeAll texts = d.putAll (texts.filterMap d.file?)
      ∧ ∀ file ∈ texts.filterMap d.file?, d.at? file.1 ≠ some .directory := by
  induction texts using List.reverseRecOn with
  | nil => exact ⟨rfl, nofun⟩
  | append_singleton texts text ih =>
    obtain ⟨heq, hfree⟩ := ih fun other hother => h other (List.mem_append_left _ hother)
    obtain ⟨q, octets, hfile, hplace, hfreeLast, hencode⟩ := (h text (by simp)).file?
    -- The texts before left the directories, so the last one finds its place as on `d`.
    have hsame := sameDirectories_putAll hfree
    have hlast : d.storeAll (texts ++ [text]) = (d.storeAll texts).store text.1 text.2 :=
      List.foldl_concat ..
    rw [List.filterMap_append, List.filterMap_cons_some hfile, hlast, heq]
    refine ⟨?_, ?_⟩
    · rw [List.filterMap_nil, putAll_concat]
      exact store_eq (hsame.place.mpr hplace) (mt (hsame q).mp hfreeLast) hencode
    · intro file hmem
      rcases List.mem_append.mp hmem with hmem | hmem
      · exact hfree file hmem
      · cases List.mem_singleton.mp hmem
        exact hfreeLast

/-- **Texts at places of their own are read as they were written.** -/
theorem Disk.read_storeAll {d : Disk} {texts : List (Path × Text)} {text : Path × Text}
    (h : ∀ text ∈ texts, d.Storable text) (hmem : text ∈ texts)
    (hdistinct : ((texts.filterMap d.file?).map (·.1)).Nodup) :
    ∃ octets, Utf8.encode text.2 = some octets ∧ (d.storeAll texts).read text.1 = .ok octets := by
  obtain ⟨heq, hfree⟩ := storeAll_eq h
  obtain ⟨q, octets, hfile, hplace, -, hencode⟩ := (h text hmem).file?
  have hthere := at?_putAll hfree hdistinct (List.mem_filterMap.mpr ⟨text, hmem, hfile⟩)
  refine ⟨octets, hencode, ?_⟩
  rw [heq, read, (sameDirectories_putAll hfree).place.mpr hplace, ok_bind, hthere]

namespace Desk

variable {w : Desk} {path : Path}

/-- **A text with octets is put on the disk.** -/
theorem perform_writeText {t : Text} {octets : List UInt8} (h : w.disk.Writable path)
    (hencode : Utf8.encode t = some octets) :
    w.perform (writeText path t) = (.ok (), { w with disk := w.disk.store path t }) := by
  obtain ⟨hpath, q, hplace, hfree⟩ := h
  rw [writeText, Disk.store_eq hplace hfree hencode, hencode]
  refine perform_ask hpath ?_
  rw [run_write, Disk.write_eq hplace hfree]

/-- A text without octets leaves an empty file, and is a fault. -/
theorem perform_writeText_of_unencodable {t : Text} (h : w.disk.Writable path)
    (hencode : Utf8.encode t = none) :
    ∃ w', w.perform (writeText path t) = (.error (.fault .unencodable), w') := by
  obtain ⟨hpath, q, hplace, hfree⟩ := h
  have hmade : w.perform (ask path (Host.write path []))
      = (.ok (), { w with disk := w.disk.put q (.file []) }) := by
    refine perform_ask hpath ?_
    rw [run_write, Disk.write_eq hplace hfree]
  rw [writeText, hencode]
  exact ⟨_, perform_bind_ok hmade _⟩

/-- A text is only written if it can be stored. -/
theorem of_perform_writeText {t : Text} {w' : Desk}
    (h : w.perform (writeText path t) = (.ok (), w')) :
    w.disk.Storable (path, t) ∧ w' = { w with disk := w.disk.store path t } := by
  cases hencode : Utf8.encode t with
  | none =>
    rw [writeText, hencode] at h
    obtain ⟨-, next, -, h⟩ := of_perform_bind h
    cases h
  | some octets =>
    have hwrite := h
    rw [writeText, hencode] at hwrite
    obtain ⟨hpath, hwrite⟩ := of_perform_ask hwrite
    rw [run_write] at hwrite
    split at hwrite
    case h_2 => cases hwrite
    case h_1 disk hdisk =>
      obtain ⟨q, hplace, hfree, -⟩ := Disk.of_write hdisk
      have hwritable : w.disk.Writable path := ⟨hpath, q, hplace, hfree⟩
      rw [perform_writeText hwritable hencode] at h
      cases h
      exact ⟨⟨hwritable, octets, hencode⟩, rfl⟩

end Desk

/-! ## 4. Logging -/

/-- Steps that only add to the log. -/
def OnlyLogs (steps : ExceptT Stop (StateM Desk) Unit) : Prop :=
  ∀ w : Desk, ∃ log, w.perform steps = (.ok (), { w with log })

theorem onlyLogs_pure : OnlyLogs (pure ()) := fun w => ⟨w.log, rfl⟩

theorem Desk.perform_log (w : Desk) (source : LogSource) (level : LogLevel) (message : Text) :
    w.perform (Command.log source level message)
      = (.ok (), { w with log := w.log ++ [⟨source, level, message⟩] }) := rfl

theorem onlyLogs_log (source : LogSource) (level : LogLevel) (message : Text) :
    OnlyLogs (log source level message) :=
  fun w => ⟨_, w.perform_log source level message⟩

theorem onlyLogs_logDetail (verbose : Bool) (source : LogSource) (message : Text) :
    OnlyLogs (logDetail verbose source message) := by
  rw [logDetail]
  split
  · exact onlyLogs_log _ _ _
  · exact onlyLogs_pure

theorem OnlyLogs.bind {first second : ExceptT Stop (StateM Desk) Unit} (h : OnlyLogs first)
    (h' : OnlyLogs second) : OnlyLogs (first >>= fun _ => second) := by
  intro w
  obtain ⟨log, hfirst⟩ := h w
  obtain ⟨log', hsecond⟩ := h' { w with log }
  exact ⟨log', (Desk.perform_bind_ok hfirst _).trans hsecond⟩

/-- Logging for every item of a list only logs. -/
theorem onlyLogs_forIn {α : Type} {xs : List α} {body : α → ExceptT Stop (StateM Desk) Unit}
    (h : ∀ x, OnlyLogs (body x)) :
    OnlyLogs (forIn xs PUnit.unit fun x _ => do
      body x
      pure (.yield PUnit.unit)) := by
  induction xs with
  | nil => exact onlyLogs_pure
  | cons x xs ih =>
    rw [List.forIn_cons, bind_assoc]
    simp only [pure_bind]
    exact (h x).bind ih

/-! ## 5. Looking -/

/-- Steps that look at the disk and leave it: what comes of them is a matter of the disk, and they
do nothing but log. -/
def OnlyLooks {α : Type} (steps : ExceptT Stop (StateM Desk) α) : Prop :=
  ∀ w : Desk, ∃ log, w.perform steps = (({ disk := w.disk : Desk }.perform steps).1, { w with log })

section OnlyLooks

variable {α β : Type}

theorem onlyLooks_pure (a : α) : OnlyLooks (pure a) := fun w => ⟨w.log, rfl⟩

theorem onlyLooks_throw (stop : Stop) : OnlyLooks (throw stop : ExceptT Stop (StateM Desk) α) :=
  fun w => ⟨w.log, rfl⟩

theorem OnlyLogs.onlyLooks {steps : ExceptT Stop (StateM Desk) Unit} (h : OnlyLogs steps) :
    OnlyLooks steps := by
  intro w
  obtain ⟨log, hlog⟩ := h w
  obtain ⟨_, hfresh⟩ := h { disk := w.disk }
  exact ⟨log, by rw [hlog, hfresh]⟩

/-- Steps that look follow each other; those behind see the same disk. -/
theorem OnlyLooks.bind {steps : ExceptT Stop (StateM Desk) α}
    {next : α → ExceptT Stop (StateM Desk) β} (h : OnlyLooks steps)
    (h' : ∀ a, OnlyLooks (next a)) : OnlyLooks (steps >>= next) := by
  intro w
  obtain ⟨log, hsteps⟩ := h w
  obtain ⟨fresh, hfresh⟩ := h { disk := w.disk }
  cases hresult : ({ disk := w.disk : Desk }.perform steps).1 with
  | error stop =>
    rw [hresult] at hsteps hfresh
    refine ⟨log, ?_⟩
    rw [Desk.perform_bind_error hsteps, Desk.perform_bind_error hfresh]
  | ok a =>
    rw [hresult] at hsteps hfresh
    obtain ⟨log', hnext⟩ := h' a { w with log }
    obtain ⟨_, hagain⟩ := h' a { disk := w.disk, log := fresh }
    refine ⟨log', ?_⟩
    rw [Desk.perform_bind_ok hsteps, Desk.perform_bind_ok hfresh, hnext, hagain]

theorem onlyLooks_attempt_read (path : Path) :
    OnlyLooks (attempt path (Host.read path : StateM Desk _)) := by
  intro w
  refine ⟨w.log, ?_⟩
  cases hfault : path.fault? with
  | some fault => rw [Desk.perform_attempt_of_fault hfault, Desk.perform_attempt_of_fault hfault]
  | none =>
    rw [Desk.perform_attempt hfault, Desk.perform_attempt hfault, Desk.run_read, Desk.run_read]

theorem onlyLooks_textSetting (setting : Yaml.Value) : OnlyLooks (textSetting setting) := by
  rw [textSetting]
  split
  · exact onlyLooks_pure _
  · exact onlyLooks_throw _

theorem onlyLooks_encodingSetting (setting : Yaml.Value) :
    OnlyLooks (encodingSetting setting) := by
  rw [encodingSetting]
  refine (onlyLooks_textSetting _).bind fun name => ?_
  split
  · exact onlyLooks_throw _
  · split
    · exact onlyLooks_throw _
    · exact onlyLooks_pure _

/-- **Reading a text only looks**, whatever the setting for its encoding is. -/
theorem onlyLooks_readText (setting : Yaml.Value) (path : Path) :
    OnlyLooks (readText setting path) := by
  rw [readText]
  refine (onlyLooks_encodingSetting _).bind fun name => (onlyLooks_attempt_read _).bind ?_
  intro result
  split
  · exact onlyLooks_pure _
  · split
    · exact onlyLooks_throw _
    · split
      · exact onlyLooks_pure _
      · exact onlyLooks_pure _
      · exact onlyLooks_throw _

end OnlyLooks

end SongSheet
