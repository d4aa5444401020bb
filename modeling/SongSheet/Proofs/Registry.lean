import Mathlib.Data.List.Forall2
import SongSheet.Proofs.Arrangement
import SongSheet.Registry

/-!
# Registries — who reads a text

Any handlers make a registry: a label may come again, and a handler may lack a reader. What counts
is said here without the tables that a registry builds. The readers are **one to a label, in the
order in which labels first have one, and each is the last that its label was given** (`IsReaderOf`,
`map_fst_readers`, `mem_readers`). A text is offered to them in turn, so **the score is that of the
first reader to accept it, and there is none exactly when all of them refuse it** (`race_exact`);
what each of them had against the text is then told, label by label.

Everything that a change of the handlers does to a race follows from these two descriptions: who
comes last disturbs nobody, and who comes first does not matter for whether there is a winner.
-/

set_option autoImplicit false

namespace SongSheet

/-- The reader that a handler brings, under its label. -/
def Handler.named? (h : Handler) : Option (Text × Reader) := h.reader.map (h.label, ·)

theorem Handler.named?_eq_some_iff {h : Handler} {label : Text} {reader : Reader} :
    h.named? = some (label, reader) ↔ h.label = label ∧ h.reader = some reader := by
  rw [named?, Option.map_eq_some_iff]
  constructor
  · rintro ⟨own, hreader, hentry⟩
    cases hentry
    exact ⟨rfl, hreader⟩
  · rintro ⟨rfl, hreader⟩
    exact ⟨reader, hreader, rfl⟩

namespace Registry

variable {r : Registry} {fileName : Option Text} {t : Text} {label : Text} {reader : Reader}
  {score : Score}

/-! ## 1. The readers of a registry -/

theorem readers_eq (r : Registry) : r.readers = assign (r.handlers.filterMap Handler.named?) := rfl

/-- A label has a reader: a handler of the label brings it, and no later one brings another. -/
def IsReaderOf (r : Registry) (label : Text) (reader : Reader) : Prop :=
  ∃ before h after, r.handlers = before ++ h :: after ∧ h.label = label ∧ h.reader = some reader
    ∧ ∀ g ∈ after, g.label = label → g.reader = none

/-- The labels that have a reader, as often as they are given one. -/
def readerLabels (r : Registry) : List Text :=
  (r.handlers.filter (·.reader.isSome)).map (·.label)

theorem map_fst_entries (handlers : List Handler) :
    (handlers.filterMap Handler.named?).map (·.1)
      = (handlers.filter (·.reader.isSome)).map (·.label) := by
  induction handlers with
  | nil => rfl
  | cons h handlers ih =>
    cases hreader : h.reader with
    | none => simpa [Handler.named?, hreader] using ih
    | some reader => simpa [Handler.named?, hreader] using ih

/-- **The readers stand in the order in which their labels first had one.** -/
theorem map_fst_readers (r : Registry) : r.readers.map (·.1) = r.readerLabels.eraseDups := by
  rw [readers_eq, map_fst_assign, map_fst_entries, readerLabels]

/-- No later handler brings another reader for a label. -/
theorem forall_entries_iff {after : List Handler} :
    (∀ e ∈ after.filterMap Handler.named?, e.1 ≠ label)
      ↔ ∀ g ∈ after, g.label = label → g.reader = none := by
  simp only [List.mem_filterMap]
  constructor
  · intro h g hg hlabel
    by_contra hsome
    obtain ⟨own, hown⟩ := Option.ne_none_iff_exists'.mp hsome
    exact h (g.label, own) ⟨g, hg, Handler.named?_eq_some_iff.mpr ⟨rfl, hown⟩⟩ hlabel
  · rintro h ⟨own, reader⟩ ⟨g, hg, hentry⟩ rfl
    obtain ⟨hlabel, hreader⟩ := Handler.named?_eq_some_iff.mp hentry
    rw [h g hg hlabel] at hreader
    cases hreader

/-- **The reader of a label is the last that it was given.** -/
theorem mem_readers : (label, reader) ∈ r.readers ↔ r.IsReaderOf label reader := by
  rw [readers_eq, mem_assign]
  constructor
  · -- The entries split at the last one of the label, and the handlers split where they do.
    rintro ⟨before, after, hsplit, hafter⟩
    obtain ⟨first, rest, hhandlers, -, hrest⟩ := List.filterMap_eq_append_iff.mp hsplit
    obtain ⟨silent, h, later, rfl, -, hh, rfl⟩ := List.filterMap_eq_cons_iff.mp hrest
    obtain ⟨hlabel, hreader⟩ := Handler.named?_eq_some_iff.mp hh
    refine ⟨first ++ silent, h, later, ?_, hlabel, hreader, forall_entries_iff.mp hafter⟩
    rw [hhandlers, List.append_assoc]
  · rintro ⟨before, h, after, hsplit, hlabel, hreader, hafter⟩
    have hh := Handler.named?_eq_some_iff.mpr ⟨hlabel, hreader⟩
    refine ⟨before.filterMap Handler.named?, _, ?_, forall_entries_iff.mpr hafter⟩
    rw [hsplit, List.filterMap_append, List.filterMap_cons_some hh]

/-! ## 2. The race -/

/-- A reader refuses a text, and the failure is told under its label. -/
structure Refuses (fileName : Option Text) (t : Text) (entry : Text × Reader)
    (failure : Text × ReadError) : Prop where
  label : failure.1 = entry.1
  error : entry.2 fileName t = .error failure.2

/-- The first of some readers to accept a text gives a score. -/
def FirstAccepts (fileName : Option Text) (t : Text) (readers : List (Text × Reader))
    (score : Score) : Prop :=
  ∃ before label reader after, readers = before ++ (label, reader) :: after
    ∧ (∀ entry ∈ before, ∃ e, entry.2 fileName t = .error e) ∧ reader fileName t = .ok score

/-- Readers that refuse a text leave the race to those behind them. -/
theorem raceAmong_append {before rest : List (Text × Reader)} {failures : List (Text × ReadError)}
    (h : List.Forall₂ (Refuses fileName t) before failures) :
    raceAmong fileName t (before ++ rest)
      = ⟨failures ++ (raceAmong fileName t rest).failures, (raceAmong fileName t rest).winner⟩ := by
  induction h with
  | nil => rfl
  | @cons entry failure before failures hrefuses _ ih =>
    obtain ⟨label, reader⟩ := entry
    obtain ⟨own, e⟩ := failure
    obtain ⟨hlabel, herror⟩ := hrefuses
    have he : reader fileName t = .error e := herror
    rw [List.cons_append, raceAmong, he, ih, List.cons_append, show own = label from hlabel]

theorem exists_failures {before : List (Text × Reader)}
    (h : ∀ entry ∈ before, ∃ e, entry.2 fileName t = .error e) :
    ∃ failures, List.Forall₂ (Refuses fileName t) before failures := by
  induction before with
  | nil => exact ⟨[], .nil⟩
  | cons entry before ih =>
    obtain ⟨failures, hfailures⟩ := ih fun other hother => h other (by simp [hother])
    obtain ⟨e, he⟩ := h entry (by simp)
    exact ⟨(entry.1, e) :: failures, .cons ⟨rfl, he⟩ hfailures⟩

theorem exists_error_of_refused {before : List (Text × Reader)}
    {failures : List (Text × ReadError)}
    (h : List.Forall₂ (Refuses fileName t) before failures) :
    ∀ entry ∈ before, ∃ e, entry.2 fileName t = .error e := by
  induction h with
  | nil => exact nofun
  | cons hrefuses _ ih =>
    rw [List.forall_mem_cons]
    exact ⟨⟨_, hrefuses.error⟩, ih⟩

/-- All readers refuse a text, or one is the first to accept it. -/
theorem refused_or_accepted (fileName : Option Text) (t : Text) (readers : List (Text × Reader)) :
    (∃ failures, List.Forall₂ (Refuses fileName t) readers failures)
      ∨ ∃ score, FirstAccepts fileName t readers score := by
  induction readers with
  | nil => exact .inl ⟨[], .nil⟩
  | cons entry readers ih =>
    obtain ⟨label, reader⟩ := entry
    cases hread : reader fileName t with
    | ok score => exact .inr ⟨score, [], label, reader, readers, rfl, nofun, hread⟩
    | error e =>
      rcases ih with ⟨failures, hfailures⟩ | ⟨score, before, own, winner, after, rfl, hbefore, hok⟩
      · exact .inl ⟨(label, e) :: failures, .cons ⟨rfl, hread⟩ hfailures⟩
      · refine .inr ⟨score, (label, reader) :: before, own, winner, after, rfl, ?_, hok⟩
        rw [List.forall_mem_cons]
        exact ⟨⟨e, hread⟩, hbefore⟩

theorem read_of_firstAccepts (h : FirstAccepts fileName t r.readers score) :
    r.read fileName t = .ok score := by
  obtain ⟨before, label, reader, after, hreaders, hbefore, hok⟩ := h
  obtain ⟨failures, hfailures⟩ := exists_failures hbefore
  rw [read, race, hreaders, raceAmong_append hfailures, raceAmong, hok]
  rfl

theorem read_of_refused {failures : List (Text × ReadError)}
    (h : List.Forall₂ (Refuses fileName t) r.readers failures) :
    r.read fileName t = .error (.noReader failures) := by
  have hrace : raceAmong fileName t (r.readers ++ []) = _ := raceAmong_append h
  rw [List.append_nil] at hrace
  rw [read, race, hrace, raceAmong, List.append_nil]
  rfl

/-- **The score of a text is that of the first reader to accept it.** -/
theorem read_eq_ok_iff :
    r.read fileName t = .ok score ↔ FirstAccepts fileName t r.readers score := by
  refine ⟨fun h => ?_, read_of_firstAccepts⟩
  rcases refused_or_accepted fileName t r.readers with ⟨failures, hfailures⟩ | ⟨first, hfirst⟩
  · rw [read_of_refused hfailures] at h
    cases h
  · rw [read_of_firstAccepts hfirst] at h
    cases h
    exact hfirst

/-- **A text has no score exactly when every reader refuses it**, and then all of them are named
with what they had against it, in order. -/
theorem read_eq_error_iff {e : ConversionError} :
    r.read fileName t = .error e
      ↔ ∃ failures, e = .noReader failures
        ∧ List.Forall₂ (Refuses fileName t) r.readers failures := by
  constructor
  · intro h
    rcases refused_or_accepted fileName t r.readers with ⟨failures, hfailures⟩ | ⟨first, hfirst⟩
    · rw [read_of_refused hfailures] at h
      cases h
      exact ⟨failures, rfl, hfailures⟩
    · rw [read_of_firstAccepts hfirst] at h
      cases h
  · rintro ⟨failures, rfl, hfailures⟩
    exact read_of_refused hfailures

/-- A text has a score exactly when some reader accepts it. -/
theorem exists_read_iff : (∃ score, r.read fileName t = .ok score)
    ↔ ∃ entry ∈ r.readers, ∃ score, entry.2 fileName t = .ok score := by
  constructor
  · rintro ⟨score, h⟩
    obtain ⟨before, label, reader, after, hreaders, -, hok⟩ := read_eq_ok_iff.mp h
    rw [hreaders]
    exact ⟨(label, reader), by simp, score, hok⟩
  · rintro ⟨entry, hentry, score, hok⟩
    rcases refused_or_accepted fileName t r.readers with ⟨failures, hfailures⟩ | ⟨first, hfirst⟩
    · obtain ⟨e, he⟩ := exists_error_of_refused hfailures entry hentry
      rw [hok] at he
      cases he
    · exact ⟨first, read_of_firstAccepts hfirst⟩

/-! ## 3. Other handlers -/

/-- A registry with one more handler, which comes last. -/
def concat (r : Registry) (h : Handler) : Registry := ⟨r.handlers ++ [h]⟩

/-- Under a new label a handler adds its reader behind the others. -/
theorem readers_concat {h : Handler} (hnew : ∀ g ∈ r.handlers, g.label ≠ h.label) :
    (r.concat h).readers = r.readers ++ h.named?.toList := by
  have hfresh : h.label ∉ r.readers.map (·.1) := by
    rw [map_fst_readers, List.mem_eraseDups, readerLabels]
    simp only [List.mem_map, List.mem_filter]
    rintro ⟨g, ⟨hg, -⟩, hlabel⟩
    exact hnew g hg hlabel
  rw [readers_eq, concat, List.filterMap_append]
  cases hreader : h.reader with
  | none => simp [Handler.named?, hreader, readers_eq]
  | some reader =>
    have hentry : h.named? = some (h.label, reader) :=
      Handler.named?_eq_some_iff.mpr ⟨rfl, hreader⟩
    rw [List.filterMap_cons_some hentry, List.filterMap_nil, assign_concat, ← readers_eq,
      setEntry_append hfresh, hentry]
    rfl

theorem read_concat {h : Handler} (hnew : ∀ g ∈ r.handlers, g.label ≠ h.label)
    (hread : r.read fileName t = .ok score) : (r.concat h).read fileName t = .ok score := by
  obtain ⟨before, label, reader, after, hreaders, hbefore, hok⟩ := read_eq_ok_iff.mp hread
  refine read_of_firstAccepts ⟨before, label, reader, after ++ h.named?.toList, ?_,
    hbefore, hok⟩
  rw [readers_concat hnew, hreaders, List.append_assoc, List.cons_append]

/-- Where all labels differ nothing is replaced. -/
theorem readers_of_nodup (h : (r.handlers.map (·.label)).Nodup) :
    r.readers = r.handlers.filterMap Handler.named? := by
  have hsome : ((r.handlers.filterMap Handler.named?).map (·.1)).Nodup := by
    rw [map_fst_entries]
    exact h.sublist (List.filter_sublist.map _)
  rw [readers_eq, assign_eq_self hsome]

theorem exists_read_perm {r' : Registry} (hperm : r.handlers.Perm r'.handlers)
    (hnodup : (r.handlers.map (·.label)).Nodup) :
    (∃ score, r.read fileName t = .ok score) ↔ ∃ score, r'.read fileName t = .ok score := by
  have hnodup' : (r'.handlers.map (·.label)).Nodup := (hperm.map _).nodup_iff.mp hnodup
  have hreaders : r.readers.Perm r'.readers := by
    rw [readers_of_nodup hnodup, readers_of_nodup hnodup']
    exact hperm.filterMap _
  simp only [exists_read_iff, hreaders.mem_iff]

/-- **The race of any registry.** Its readers are one to a label, in the order in which labels first
have one, and each is the last of its label. A text is read by the first of them to accept it; where
none does, each of them is named with its own failure. A handler with a new label that comes last
changes nothing for a text that was read before, and where all labels differ the order of the
handlers does not decide whether a text is read. -/
theorem race_exact (r : Registry) (fileName : Option Text) (t : Text) :
    r.readers.map (·.1) = r.readerLabels.eraseDups
      ∧ (∀ label reader, (label, reader) ∈ r.readers ↔ r.IsReaderOf label reader)
      ∧ (∀ score, r.read fileName t = .ok score ↔ FirstAccepts fileName t r.readers score)
      ∧ (∀ e, r.read fileName t = .error e ↔ ∃ failures, e = .noReader failures
        ∧ List.Forall₂ (Refuses fileName t) r.readers failures)
      ∧ (∀ h : Handler, (∀ g ∈ r.handlers, g.label ≠ h.label) → ∀ score,
        r.read fileName t = .ok score → (r.concat h).read fileName t = .ok score)
      ∧ ∀ r' : Registry, r.handlers.Perm r'.handlers → (r.handlers.map (·.label)).Nodup →
        ((∃ score, r.read fileName t = .ok score) ↔ ∃ score, r'.read fileName t = .ok score) :=
  ⟨map_fst_readers r, fun _ _ => mem_readers, fun _ => read_eq_ok_iff, fun _ => read_eq_error_iff,
    fun _ hnew _ hread => read_concat hnew hread,
    fun _ hperm hnodup => exists_read_perm hperm hnodup⟩

/-- A label that is given a second reader, which refuses, and then a handler without one; a reader
under a new label at the end; and two labels in either order. -/
theorem race_exact_sample :
    let silent : Reader := fun _ _ => .ok { bpm := 60 }
    let refusing : Reader := fun _ _ => .error .nullCharacter
    let twice : Registry :=
      ⟨[{ label := "b", reader := some silent }, { label := "a", reader := some silent },
        { label := "b", reader := some refusing }, { label := "b" }]⟩
    let apart : Registry :=
      ⟨[{ label := "a", reader := some silent }, { label := "b", reader := some refusing }]⟩
    twice.readers.map (·.1) = ["b", "a"] ∧ twice.IsReaderOf "b" refusing
      ∧ (twice.concat { label := "c", reader := some refusing }).read none "1" = .ok { bpm := 60 }
      ∧ ∃ score, (⟨apart.handlers.reverse⟩ : Registry).read none "1" = .ok score := by
  intro silent refusing twice apart
  obtain ⟨hlabels, hreaders, hok, -, hconcat, -⟩ := race_exact twice none "1"
  obtain ⟨-, -, -, -, -, hperm⟩ := race_exact apart none "1"
  have hlast : (("b" : Text), refusing) ∈ twice.readers := List.mem_cons_self
  have hfirst : FirstAccepts none "1" twice.readers { bpm := 60 } :=
    ⟨[("b", refusing)], "a", silent, [], rfl, by simp [refusing], rfl⟩
  refine ⟨hlabels.trans (by decide), (hreaders _ _).mp hlast,
    hconcat _ (by decide) _ ((hok _).mpr hfirst), ?_⟩
  exact (hperm _ (List.reverse_perm _).symm (by decide)).mp ⟨{ bpm := 60 }, rfl⟩

end Registry

end SongSheet
