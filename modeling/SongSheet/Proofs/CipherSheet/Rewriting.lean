import SongSheet.Proofs.CipherSheet.Header
import SongSheet.Proofs.CipherSheet.RoundTrip
import SongSheet.Proofs.Unison

/-!
# Cipher sheets — what was read and written again

The notes of a sheet may be spelled in many ways, and its header may be any comment with fields in
it. What is written of them is spelled in one way and has a header of its own. The notes always come
back, with the key as a place in the octave and the rates in lowest terms. With the metadata it is
different: the value of a field goes to the end of its line, and on the last line of a comment that
is the end of the comment, which stands in the value then (`headerValue_cases`). Written in front of
other fields it ends the comment too early. **What was read is read again exactly if none of its
metadata holds the end of a comment** (`read_write_of_read`).
-/

set_option autoImplicit false

namespace SongSheet.CipherSheet

/-! ## 1. Values of a header -/

/-- The end of a comment at the end of a value, and nowhere else in it. -/
def EndsComment (value : Text) : Prop :=
  ∃ u, value = u ++ ("*/" : Text) ∧ ¬ ("*/" : Text) <:+: u

/-- A part of a comment that holds its end holds nothing behind it. -/
theorem endsComment_of_part {body value : Text} (h : ¬ ("*/" : Text) <:+: body)
    (hvalue : value <:+: body ++ ("*/" : Text)) (hend : ("*/" : Text) <:+: value) :
    EndsComment value := by
  obtain ⟨u, v, rfl⟩ := hend
  obtain ⟨before, after, hparts⟩ := hvalue
  have hparts : before ++ u ++ ("*/" : Text) ++ (v ++ after) = body ++ ("*/" : Text) := by
    rw [← hparts]
    simp only [List.append_assoc]
  rcases List.eq_nil_or_concat (v ++ after) with hnone | ⟨rest, last, hrest⟩
  · obtain ⟨rfl, -⟩ := List.append_eq_nil_iff.mp hnone
    rw [hnone, List.append_nil] at hparts
    have hbody : before ++ u = body := List.append_cancel_right hparts
    refine ⟨u, List.append_nil _, fun hu => h (hu.trans ?_)⟩
    rw [← hbody]
    exact (List.suffix_append before u).isInfix
  · -- With something behind it the end would stand in the body already, or in it and a star.
    have hopen : ¬ ("*/" : Text) <:+: body ++ (['*'] : Text) :=
      pair_not_infix_append h (by decide) (Or.inr (by decide))
    have hlast : before ++ u ++ ("*/" : Text) ++ rest ++ [last]
        = body ++ (['*'] : Text) ++ [.ofChar '/'] := by
      rw [List.append_assoc _ rest, ← List.concat_eq_append, ← hrest, hparts, List.append_assoc]
      rfl
    obtain ⟨hinit, -⟩ := List.append_inj' hlast rfl
    exact absurd ⟨before ++ u, rest, hinit⟩ hopen

theorem fieldValue_start (t : Text) :
    fieldValue t <+: (t.dropWhile isSpaceOrTab).takeWhile (· ≠ ('\n' : CodePoint)) := by
  rw [← List.reverse_suffix, fieldValue, List.reverse_reverse]
  exact List.dropWhile_suffix _

theorem fieldValue_part (t : Text) : fieldValue t <:+: t :=
  ((fieldValue_start t).trans (List.takeWhile_prefix _)).isInfix.trans
    (List.dropWhile_suffix _).isInfix

/-- A value has no line end in it and no spaces at its ends. -/
theorem fillsLine_fieldValue {t : Text} (h : ¬ ("*/" : Text) <:+: fieldValue t) :
    FillsLine (fieldValue t) where
  oneLine := by
    intro hfeed
    have hline := List.mem_takeWhile_imp ((fieldValue_start t).subset hfeed)
    simp at hline
  noEnd := h
  start := by
    intro c hc
    obtain ⟨rest, hrest⟩ := (fieldValue_start t).trans (List.takeWhile_prefix _)
    have hnot := List.head?_dropWhile_not isSpaceOrTab t
    rw [← hrest, List.head?_append, Option.mem_def.mp hc] at hnot
    exact hnot
  finish := by
    intro c hc
    rw [fieldValue, List.getLast?_reverse] at hc
    have hnot := List.head?_dropWhile_not (fun c => isSpaceOrTab c || c = '\r')
      ((t.dropWhile isSpaceOrTab).takeWhile (· ≠ ('\n' : CodePoint))).reverse
    rw [hc] at hnot
    simpa using hnot

/-- The value of a field is read at the end of the text that the field is read of. -/
theorem exists_suffix_of_headerField? {t value : Text} {field : Field}
    (h : headerField? t = some (field, value)) : ∃ u, u <:+ t ∧ value = fieldValue u := by
  obtain ⟨⟨found, rest⟩, hname, h⟩ := Option.bind_eq_some_iff.mp h
  obtain ⟨u, hcolon, h⟩ := Option.bind_eq_some_iff.mp h
  cases h
  obtain ⟨_, -, hword⟩ := List.exists_of_findSome?_eq_some hname
  obtain ⟨_, hword, hpair⟩ := Option.map_eq_some_iff.mp hword
  cases hpair
  have hrest : rest <:+ t := (Text.suffix_of_after? hword).trans (List.dropWhile_suffix _)
  have hvalue : u <:+ rest := (Text.suffix_of_after? hcolon).trans (List.dropWhile_suffix _)
  exact ⟨u, hvalue.trans hrest, rfl⟩

theorem suffix_of_mem_laterLines {t u : Text} (h : u ∈ laterLines t) : u <:+ t := by
  induction t with
  | nil => cases h
  | cons c t ih =>
    rw [laterLines] at h
    split at h
    · rcases List.mem_cons.mp h with rfl | h
      · exact List.suffix_cons c u
      · exact (ih h).trans (List.suffix_cons c t)
    · exact (ih h).trans (List.suffix_cons c t)

theorem exists_firstComment {t comment : Text} (h : firstComment? t = some comment) :
    ∃ body, ¬ ("*/" : Text) <:+: body ∧ comment = ("/*" : Text) ++ (body ++ ("*/" : Text)) := by
  obtain ⟨⟨before, rest⟩, -, h⟩ := Option.bind_eq_some_iff.mp h
  obtain ⟨⟨body, after⟩, hcut, h⟩ := Option.bind_eq_some_iff.mp h
  cases h
  exact ⟨body, Text.not_infix_of_cut? (by decide) hcut, List.append_assoc _ _ _⟩

/-- **The value of a header fills its line, or it ends the comment that it stands in.** -/
theorem headerValue_cases (t : Text) (field : Field) :
    FillsLine (headerValue t field) ∨ EndsComment (headerValue t field) := by
  rw [headerValue]
  cases hlast : ((headerFields t).filter (·.1 = field)).getLast? with
  | none => exact .inl fillsLine_nil
  | some found =>
    obtain ⟨field', value⟩ := found
    have hmem := (List.mem_filter.mp (List.mem_of_getLast? hlast)).1
    rw [headerFields] at hmem
    split at hmem
    case h_1 => cases hmem
    case h_2 comment hcomment =>
      obtain ⟨body, hopen, rfl⟩ := exists_firstComment hcomment
      obtain ⟨l, hl, hfield⟩ := List.mem_filterMap.mp (List.mem_filter.mp hmem).1
      -- No field stands on the line that opens the comment.
      have hlater : l <:+ body ++ ("*/" : Text) := by
        rcases List.mem_cons.mp hl with rfl | hl
        · cases hfield
        · exact suffix_of_mem_laterLines hl
      obtain ⟨u, hu, rfl⟩ := exists_suffix_of_headerField? hfield
      by_cases hend : ("*/" : Text) <:+: fieldValue u
      · have hinfix := (fieldValue_part u).trans (hu.trans hlater).isInfix
        exact .inr (endsComment_of_part hopen hinfix hend)
      · exact .inl (fillsLine_fieldValue hend)

theorem fillsLine_headerValue_iff (t : Text) (field : Field) :
    FillsLine (headerValue t field) ↔ ¬ ("*/" : Text) <:+: headerValue t field := by
  refine ⟨FillsLine.noEnd, fun hopen => ?_⟩
  rcases headerValue_cases t field with hfills | ⟨u, hvalue, -⟩
  · exact hfills
  · have hend : ("*/" : Text) <:+: headerValue t field := by
      rw [hvalue]
      exact (List.suffix_append _ _).isInfix
    exact absurd hend hopen

/-! ## 2. Comments that end early -/

/-- Behind a comment that ends early the next line of the header stands in front of the music, with
its star. -/
theorem read_of_early_end {body : Text} (h : ¬ ("*/" : Text) <:+: body) (fileName : Option Text)
    (rest : Text) :
    read fileName (("/*" : Text) ++ body ++ ("*/" : Text) ++ (("\n *" : Text) ++ rest))
      = .error .cipherForm := by
  have hmusic : music (("/*" : Text) ++ body ++ ("*/" : Text) ++ (("\n *" : Text) ++ rest))
      = .ofChar '*' :: music rest := by
    rw [music, dropBlockComments_comment h, ← music]
    calc music (("\n *" : Text) ++ rest)
        = music (.ofChar ' ' :: .ofChar '*' :: rest) := music_cons_blank (c := '\n') (by decide) _
      _ = music (.ofChar '*' :: rest) := music_cons_blank (by decide) _
      _ = .ofChar '*' :: music rest := music_cons (by decide) (by decide) rest
  rw [read, hmusic]
  rfl

/-- The first value that ends the comment ends that of the header, and the next line of the header
is left behind it. -/
theorem exists_early_end {name author transcriber : Text}
    (hname : FillsLine name ∨ EndsComment name) (hauthor : FillsLine author ∨ EndsComment author)
    (htranscriber : FillsLine transcriber ∨ EndsComment transcriber)
    (h : ¬(FillsLine name ∧ FillsLine author ∧ FillsLine transcriber)) :
    ∃ body rest, ¬ ("*/" : Text) <:+: body ∧ headerBody name author transcriber ++ ("*/" : Text)
      = body ++ ("*/" : Text) ++ (("\n *" : Text) ++ rest) := by
  have hstart : ∀ {t : Text}, ¬ ("*/" : Text) <:+: t → ¬ ("*/" : Text) <:+: ("*\n" : Text) ++ t :=
    fun ht => pair_not_infix_append (by decide) ht (Or.inl (by decide))
  -- The values in front of the first one that ends the comment leave it open.
  rcases hname with hname | ⟨u, rfl, hu⟩
  · rcases hauthor with hauthor | ⟨u, rfl, hu⟩
    · obtain ⟨u, rfl, hu⟩ : EndsComment transcriber :=
        htranscriber.resolve_left fun ht => h ⟨hname, hauthor, ht⟩
      have hthird := line_open fillsLine_nil.noEnd .arrangedBy (lineStart_open hu .transcribedBy)
      have hbody := hstart (line_open hname.noEnd .name (line_open hauthor.noEnd .author hthird))
      exact ⟨_, "/", hbody, by simp [headerBody, line, Text.ofString]⟩
    · have hbody := hstart (line_open hname.noEnd .name (lineStart_open hu .author))
      refine ⟨_, (" arrangedBy: \n" : Text) ++ line .transcribedBy transcriber ++ (" */" : Text),
        hbody, ?_⟩
      simp [headerBody, line, Field.word, Text.ofString]
  · refine ⟨_, (" author: " : Text) ++ author ++ ("\n" : Text) ++ line .arrangedBy []
      ++ line .transcribedBy transcriber ++ (" */" : Text), hstart (lineStart_open hu .name), ?_⟩
    simp [headerBody, line, Field.word, Text.ofString]

/-! ## 3. Sheets that were read -/

/-- Without a file the title is what the header says. -/
theorem title_none (t : Text) : title none t = headerValue t .name := by
  rw [title]
  split
  case isTrue hempty =>
    rw [List.isEmpty_iff.mp hempty]
    decide
  case isFalse => rfl

/-- What is known of a sheet that was read: where its metadata come from, and that its music can be
written. -/
structure IsRead (t : Text) (score : Score) : Prop where
  name : score.name = .string (headerValue t .name)
  author : score.author = .string (headerValue t .author)
  transcriber : score.transcriber = .string (headerValue t .transcribedBy)
  runs : score.Runs
  lasts : ∃ b ∈ score.beats, b.Lasts
  nodup : ∀ b ∈ score.beats, b.tones.Nodup

variable {t : Text} {score : Score}

theorem isRead_of_read (h : read none t = .ok score) : IsRead t score := by
  have hruns := (runs_of_read h).1
  have hnodup := nodup_of_read h
  rw [read] at h
  split at h
  case h_1 => cases h
  case h_2 m hm =>
    obtain ⟨bpm, -, h⟩ := bind_eq_ok h
    obtain ⟨bs, hbeats, h⟩ := bind_eq_ok h
    cases h
    refine ⟨congrArg Json.string (title_none t), rfl, rfl, hruns, ?_, hnodup⟩
    -- Music has a chord at least, and the beat of every chord takes time.
    obtain ⟨c, hc⟩ := List.exists_mem_of_ne_nil _ (Music.wellFormed_of_ofText? hm).chords_ne_nil
    obtain ⟨b, hb, -⟩ := exists_related_of_mem (mapM_eq_ok_iff.mp hbeats).flip hc
    obtain ⟨hnum, hden⟩ := hruns.rates b hb
    exact ⟨b, hb, (Beat.lasts_iff hden).mpr hnum⟩

/-- A text whose music is spelled out is read as what that means. -/
theorem read_of_render {m : Music} {bpm : Int} {bs : List Beat} (hmusic : music t = m.render)
    (hwell : m.WellFormed) (htempo : m.tempo = .ok bpm) (hbeats : m.toBeats = .ok bs) :
    read none t = .ok {
      name := .string (headerValue t .name)
      author := .string (headerValue t .author)
      transcriber := .string (headerValue t .transcribedBy)
      keyNote := m.keyNote
      bpm
      beats := bs } := by
  rw [read, hmusic, Music.ofText?_render hwell, title_none]
  dsimp only
  rw [htempo, hbeats]
  rfl

/-- A score as it comes back: its key is a place in the octave, every rate is in lowest terms. -/
def rewritten (score : Score) : Score :=
  { score with
    keyNote := score.keyNote % 12
    beats := score.beats.map fun b => { rate := .ofRat b.rate.value, tones := b.tones } }

theorem toBeats_of_runs (h : score.Runs) (hnodup : ∀ b ∈ score.beats, b.tones.Nodup) :
    (musicOf score).toBeats = .ok (rewritten score).beats := by
  have hlasts : score.beats.filter (·.Lasts) = score.beats := by
    rw [List.filter_eq_self]
    intro b hb
    obtain ⟨hnum, hden⟩ := h.rates b hb
    exact decide_eq_true ((Beat.lasts_iff hden).mpr hnum)
  rw [toBeats_musicOf (fun b hb => (h.rates b hb).2) hnodup, hlasts]
  rfl

theorem IsRead.write_eq (h : IsRead t score) :
    write score = ("/*" : Text) ++ headerBody (headerValue t .name) (headerValue t .author)
      (headerValue t .transcribedBy) ++ ("*/" : Text) ++ musicLines score := by
  rw [write_eq_comment, h.name, h.author, h.transcriber]
  rfl

/-- A sheet whose values fill their lines is read again. -/
theorem IsRead.read_write (h : IsRead t score) (hname : FillsLine (headerValue t .name))
    (hauthor : FillsLine (headerValue t .author))
    (htranscriber : FillsLine (headerValue t .transcribedBy)) :
    read none (write score) = .ok (rewritten score) := by
  have hmusic := music_write h.name h.author h.transcriber hname hauthor htranscriber h.runs.bpm
    (fun b hb => (h.runs.rates b hb).2) h.lasts
  obtain ⟨hreadName, hreadAuthor, hreadTranscriber⟩ : headerValue (write score) .name
      = headerValue t .name ∧ headerValue (write score) .author = headerValue t .author
        ∧ headerValue (write score) .transcribedBy = headerValue t .transcribedBy := by
    rw [h.write_eq]
    exact headerValue_of_header hname hauthor htranscriber _
  rw [read_of_render hmusic (wellFormed_musicOf h.lasts) (tempo_musicOf h.runs.bpm)
    (toBeats_of_runs h.runs h.nodup), hreadName, hreadAuthor, hreadTranscriber, keyNote_musicOf,
    ← h.name, ← h.author, ← h.transcriber]
  rfl

/-- The values leave the comment open that is written of them exactly if all fill their lines. -/
theorem IsRead.leavesOpen_iff (h : IsRead t score) :
    LeavesOpen score ↔ FillsLine (headerValue t .name) ∧ FillsLine (headerValue t .author)
      ∧ FillsLine (headerValue t .transcribedBy) := by
  rw [fillsLine_headerValue_iff, fillsLine_headerValue_iff, fillsLine_headerValue_iff]
  constructor
  · rintro ⟨hname, hauthor, htranscriber⟩
    rw [h.name] at hname
    rw [h.author] at hauthor
    rw [h.transcriber] at htranscriber
    exact ⟨hname, hauthor, htranscriber⟩
  · rintro ⟨hname, hauthor, htranscriber⟩
    refine ⟨?_, ?_, ?_⟩
    · rwa [h.name]
    · rwa [h.author]
    · rwa [h.transcriber]

/-- **A sheet that was read is written so that it is read again**, with the same metadata, tempo and
tones, its key as a place in the octave and its rates in lowest terms, **exactly if none of its
metadata holds the end of a comment**. Otherwise what is written is no cipher sheet. -/
theorem read_write_of_read (h : read none t = .ok score) :
    (LeavesOpen score → read none (write score) = .ok (rewritten score))
      ∧ (¬LeavesOpen score → read none (write score) = .error .cipherForm) := by
  have hread := isRead_of_read h
  rw [hread.leavesOpen_iff]
  constructor
  · rintro ⟨hname, hauthor, htranscriber⟩
    exact hread.read_write hname hauthor htranscriber
  · intro hends
    obtain ⟨body, rest, hopen, hbody⟩ := exists_early_end (headerValue_cases t .name)
      (headerValue_cases t .author) (headerValue_cases t .transcribedBy) hends
    have hwrite : write score = ("/*" : Text) ++ body ++ ("*/" : Text)
        ++ (("\n *" : Text) ++ (rest ++ musicLines score)) := by
      rw [hread.write_eq, List.append_assoc _ _ ("*/" : Text), hbody]
      simp only [List.append_assoc]
    rw [hwrite]
    exact read_of_early_end hopen none _

/-- Stars and blanks around the fields, one tone by two names, and rates of several steps. -/
theorem read_write_of_read_sample :
    let score : Score := {
      name := .string "/ a: *"
      author := .string "b"
      transcriber := .string []
      keyNote := 12
      bpm := 60
      beats := [⟨⟨6, 4, by decide⟩, [12, 0]⟩, ⟨⟨1, 4, by decide⟩, []⟩] }
    read none ("/*\n** name :\t/ a: * \r\n*transcribedBy:\n author: b\n*/"
        ++ "[1=B#,3/4,060] 1+&1&7#*6/4, 0/2/2") = .ok score
      ∧ read none (write score) = .ok { score with
        keyNote := 0
        beats := [⟨⟨3, 2, by decide⟩, [12, 0]⟩, ⟨⟨1, 4, by decide⟩, []⟩] } := by
  intro score
  have hread : read none ("/*\n** name :\t/ a: * \r\n*transcribedBy:\n author: b\n*/"
      ++ "[1=B#,3/4,060] 1+&1&7#*6/4, 0/2/2") = .ok score := by
    decide +kernel
  have hrewritten : rewritten score = { score with
      keyNote := 0
      beats := [⟨⟨3, 2, by decide⟩, [12, 0]⟩, ⟨⟨1, 4, by decide⟩, []⟩] } := by
    decide +kernel
  exact ⟨hread, hrewritten ▸ (read_write_of_read hread).1 ⟨by decide, by decide, by decide⟩⟩

/-- A field on the last line of a comment has the end of the comment in its value, and what is
written of it is refused. -/
theorem not_every_sheet_read_again :
    ¬∀ (t : Text) (score : Score), read none t = .ok score →
      read none (write score) = .ok (rewritten score) := by
  intro h
  let score : Score :=
    { name := .string "x */", author := .string [], transcriber := .string [], bpm := 60,
      beats := [⟨⟨1, 1, by decide⟩, [0]⟩] }
  have hread : read none "/**\n * name: x */\n[1=C,4/4,60]1," = .ok score := by decide +kernel
  have hrefused : read none (write score) = .error .cipherForm := by decide +kernel
  cases hrefused.symm.trans (h _ _ hread)

end SongSheet.CipherSheet
