import SongSheet.Proofs.CipherSheet.Header
import SongSheet.Proofs.EventSheet.RoundTrip
import SongSheet.Proofs.Format
import SongSheet.Proofs.LetterSheet.Header
import SongSheet.Proofs.Script.Call

/-!
# Metadata and music

A sheet has its metadata and its music in one text. Event sheets and scripts quote the metadata, so
nothing in them is taken for music; letter sheets and cipher sheets print them as they are. There
they have to be harmless (`Format.Harmless`): on one line in the one, and without the end of a
comment in the other. **Then metadata change nothing that is played** (`metadata_unheard`): two
scores that differ in nothing else are read back with the same music, or neither is read. In a
cipher sheet the worst they can do is to make the sheet unreadable; in a letter sheet they can be
played (`metadata_heard`).
-/

set_option autoImplicit false

namespace SongSheet

/-! ## 1. Metadata -/

/-- A text without surrogates. -/
def Json.IsProper : Json → Prop
  | .string t => ∀ c ∈ t, c.isSurrogate = false
  | _ => False

/-- Metadata that are texts without surrogates. -/
structure Score.ProperMetadata (score : Score) : Prop where
  name : score.name.IsProper
  author : score.author.IsProper
  transcriber : score.transcriber.IsProper

theorem Json.IsProper.exists_text {v : Json} (h : v.IsProper) :
    ∃ t : Text, v = .string t ∧ ∀ c ∈ t, c.isSurrogate = false := by
  cases v with
  | string t => exact ⟨t, rfl, h⟩
  | null | bool | int | float | array | object => cases h

variable {score score' : Score}

/-- Only the music is placed on keys. -/
theorem Placement.place_congr (h : score.SameMusic score') (layout : KeyLayout) :
    place score layout = place score' layout := by
  obtain ⟨name, author, transcriber, keyNote, bpm, beats⟩ := score
  obtain ⟨name', author', transcriber', keyNote', bpm', beats'⟩ := score'
  obtain ⟨hkey, hbpm, hbeats⟩ := h
  dsimp only at hkey hbpm hbeats
  subst hkey hbpm hbeats
  rfl

/-! ## 2. Quoted metadata -/

namespace EventSheet

theorem played?_ofJson_document (h : score.SameMusic score') (hbpm : 0 < score.bpm)
    (strokes : List Stroke) : played? (ofJson (document score strokes))
      = played? (ofJson (document score' strokes)) := by
  have hbpm' : 0 < score'.bpm := h.bpm ▸ hbpm
  rw [ofJson, ofJson, sheetFields_document, sheetFields_document, ok_bind, ok_bind,
    checkPitchLevel_document, checkPitchLevel_document, ok_bind, ok_bind,
    checkBpm_document strokes hbpm, checkBpm_document strokes hbpm', ok_bind, ok_bind,
    pressFields_document, pressFields_document, ok_bind, ok_bind, h.keyNote, h.bpm]
  exact played?_bind _ fun timed => played?_bind _ fun sounding => rfl

/-- **Metadata change nothing that is played of an event sheet.** -/
theorem played?_ofPlacement (h : score.SameMusic score') (hbpm : 0 < score.bpm)
    (hproper : score.ProperMetadata) (hproper' : score'.ProperMetadata) (placement : Placement) :
    played? (read (ofPlacement score placement))
      = played? (read (ofPlacement score' placement)) := by
  have hread : ∀ s : Score, s.ProperMetadata →
      read (ofPlacement s placement) = ofJson (document s placement.strokes) := by
    intro s hs
    obtain ⟨name, hname, -⟩ := hs.name.exists_text
    obtain ⟨author, hauthor, -⟩ := hs.author.exists_text
    obtain ⟨transcriber, htranscriber, -⟩ := hs.transcriber.exists_text
    rw [read, ofPlacement,
      Json.read_render (plain_document placement.strokes hname hauthor htranscriber)]
  rw [hread score hproper, hread score' hproper', played?_ofJson_document h hbpm]

end EventSheet

namespace Timeline

theorem played?_ofSpans (name name' : Text) (timed : List Span) :
    played? (ofSpans name timed) = played? (ofSpans name' timed) := by
  rw [ofSpans, ofSpans]
  split
  · rfl
  · exact played?_bind _ fun bpm => rfl

theorem played?_read (name name' content : Text) (version : Int) :
    played? (read name content version) = played? (read name' content version) := by
  rw [read, read]
  split
  · rfl
  · exact played?_bind _ fun found => played?_ofSpans name name' _

end Timeline

namespace Script

/-- A text with a surrogate is no script. -/
theorem read_of_surrogate {t : Text} {c : CodePoint} (hc : c ∈ t) (h : c.isSurrogate = true) :
    ∃ e, read t = .error e := by
  obtain ⟨first, index, count, hfound⟩ := exists_surrogates hc h
  rw [read, readCalls, hfound]
  exact ⟨_, rfl⟩

/-- A surrogate in the content of a call is written as it is. -/
theorem mem_call_of_surrogate (name : Json) {content : Text} {c : CodePoint} (hc : c ∈ content)
    (h : c.isSurrogate = true) : c ∈ call name content := by
  have hchar : c ∈ Json.stringChar false c := by
    rw [CodePoint.isSurrogate, Bool.and_eq_true, decide_eq_true_eq, decide_eq_true_eq] at h
    have hne : ∀ d : CodePoint, d.val < 0xD800 → c ≠ d := by
      rintro d hd rfl
      omega
    rw [Json.stringChar, if_neg (not_or.mpr ⟨hne _ (by decide), hne _ (by decide)⟩),
      if_neg (hne _ (by decide)), if_neg (hne _ (by decide)), if_neg (hne _ (by decide)),
      if_neg (by omega), if_neg (by omega), if_neg (by simp; omega)]
    exact List.mem_singleton_self c
  have hquote : c ∈ (Json.string content).render .spaced :=
    List.mem_cons_of_mem _ (List.mem_append_left _ (List.mem_flatMap.mpr ⟨c, hc, hchar⟩))
  simp only [call, Text.enclose, Text.join, List.mem_append, List.mem_cons, hquote, true_or,
    or_true]

/-- **A name changes nothing that is played of a script.** -/
theorem played?_call {name name' : Text} (hname : ∀ c ∈ name, c.isSurrogate = false)
    (hname' : ∀ c ∈ name', c.isSurrogate = false) (content : Text) :
    played? (read (call (.string name) content))
      = played? (read (call (.string name') content)) := by
  by_cases hcontent : ∀ c ∈ content, c.isSurrogate = false
  · have hread : ∀ name : Text, (∀ c ∈ name, c.isSurrogate = false) →
        played? (read (call (.string name) content))
          = played? (Timeline.read name content Timeline.version) := by
      intro name hname
      rw [read, readCalls_call hname hcontent, ok_bind, List.getLast?_singleton]
      have harguments : ofArguments [.text name, .text content, .int 2]
          = Timeline.read name content Timeline.version := rfl
      dsimp only
      rw [harguments]
      cases Timeline.read name content Timeline.version <;> rfl
    rw [hread name hname, hread name' hname', Timeline.played?_read]
  · simp only [not_forall, Bool.not_eq_false] at hcontent
    obtain ⟨c, hc, hsurrogate⟩ := hcontent
    rw [played?_eq_none (read_of_surrogate (mem_call_of_surrogate _ hc hsurrogate) hsurrogate),
      played?_eq_none (read_of_surrogate (mem_call_of_surrogate _ hc hsurrogate) hsurrogate)]

end Script

/-! ## 3. Every format -/

/-- Metadata that stay where a format puts them: on one line in a letter sheet, inside the comment
in a cipher sheet, and anywhere in the sheets that quote them. -/
def Format.Harmless (f : Format) (score : Score) : Prop :=
  match f with
  | .letterSheet => LetterSheet.OneLine score.author.display
      ∧ LetterSheet.OneLine score.transcriber.display
  | .cipherSheet => CipherSheet.LeavesOpen score
  | .eventSheet | .script => True

section

variable {keyLayout : Option Text} {written written' : Written}

theorem Format.played?_eventSheet (fileName : Option Text) (h : score.SameMusic score')
    (hproper : score.ProperMetadata) (hproper' : score'.ProperMetadata)
    (hwrite : eventSheet.writer keyLayout score = .ok written)
    (hwrite' : eventSheet.writer keyLayout score' = .ok written') :
    played? (eventSheet.reader fileName written.text)
      = played? (eventSheet.reader fileName written'.text) := by
  rw [writer_eventSheet] at hwrite hwrite'
  obtain ⟨placement, hplace, rfl⟩ := map_eq_ok hwrite
  obtain ⟨placement', hplace', rfl⟩ := map_eq_ok hwrite'
  rw [← Placement.place_congr h, hplace] at hplace'
  obtain rfl := Except.ok.inj hplace'
  simp only [reader, played?_mapError]
  exact EventSheet.played?_ofPlacement h (Placement.bpm_pos_of_place hplace) hproper hproper' _

theorem Format.played?_script (fileName : Option Text) (h : score.SameMusic score')
    (hproper : score.ProperMetadata) (hproper' : score'.ProperMetadata)
    (hwrite : script.writer keyLayout score = .ok written)
    (hwrite' : script.writer keyLayout score' = .ok written') :
    played? (script.reader fileName written.text)
      = played? (script.reader fileName written'.text) := by
  rw [writer_script] at hwrite hwrite'
  obtain ⟨layout, hlayout, hwrite⟩ := bind_eq_ok hwrite
  obtain ⟨layout', hlayout', hwrite'⟩ := bind_eq_ok hwrite'
  rw [hlayout] at hlayout'
  obtain rfl := Except.ok.inj hlayout'
  obtain ⟨placement, hplace, rfl⟩ := map_eq_ok hwrite
  obtain ⟨placement', hplace', rfl⟩ := map_eq_ok hwrite'
  rw [← Placement.place_congr h, hplace] at hplace'
  obtain rfl := Except.ok.inj hplace'
  obtain ⟨name, hname, hsurrogates⟩ := hproper.name.exists_text
  obtain ⟨name', hname', hsurrogates'⟩ := hproper'.name.exists_text
  simp only [reader, Script.ofPlacement, hname, hname']
  exact Script.played?_call hsurrogates hsurrogates' _

/-- **Metadata change nothing that is played.** Two scores that differ in nothing else are read back
with the same music, or neither is read, if their metadata stay where they are put; and wherever
they go, only in a letter sheet can they be read as other music. -/
theorem Format.metadata_unheard {f : Format} (fileName : Option Text)
    (h : score.SameMusic score') (hproper : score.ProperMetadata)
    (hproper' : score'.ProperMetadata)
    (hwrite : f.writer keyLayout score = .ok written)
    (hwrite' : f.writer keyLayout score' = .ok written') :
    (f.Harmless score → f.Harmless score' →
      played? (f.reader fileName written.text) = played? (f.reader fileName written'.text))
    ∧ (f ≠ .letterSheet → ∀ result result', f.reader fileName written.text = .ok result →
      f.reader fileName written'.text = .ok result' → result.SameMusic result') := by
  cases f with
  | eventSheet =>
    have hplayed := played?_eventSheet fileName h hproper hproper' hwrite hwrite'
    exact ⟨fun _ _ => hplayed, fun _ _ _ hx hx' => Score.sameMusic_of_played? hplayed hx hx'⟩
  | script =>
    have hplayed := played?_script fileName h hproper hproper' hwrite hwrite'
    exact ⟨fun _ _ => hplayed, fun _ _ _ hx hx' => Score.sameMusic_of_played? hplayed hx hx'⟩
  | letterSheet =>
    rw [writer_letterSheet] at hwrite hwrite'
    obtain ⟨text, htext, rfl⟩ := map_eq_ok hwrite
    obtain ⟨text', htext', rfl⟩ := map_eq_ok hwrite'
    refine ⟨?_, fun hne => absurd rfl hne⟩
    rintro ⟨hauthor, htranscriber⟩ ⟨hauthor', htranscriber'⟩
    simp only [reader, played?_mapError]
    exact LetterSheet.played?_write fileName h htext htext' hauthor htranscriber hauthor'
      htranscriber'
  | cipherSheet =>
    obtain rfl := Except.ok.inj hwrite
    obtain rfl := Except.ok.inj hwrite'
    refine ⟨?_, ?_⟩
    · intro hopen hopen'
      simp only [reader, played?_mapError]
      exact CipherSheet.played?_write fileName h hopen hopen'
    · intro _ result result' hx hx'
      simp only [reader] at hx hx'
      exact CipherSheet.sameMusic_of_read_write h (ok_of_mapError hx) (ok_of_mapError hx')

end

/-! ## 4. Metadata that are heard -/

/-- One tone under some author. -/
def Score.tone (author : Text) : Score where
  author := .string author
  bpm := 60
  beats := [{ rate := Rate.ofInt 1, tones := [0] }]

theorem Score.properMetadata_tone {author : Text} (h : ∀ c ∈ author, c.isSurrogate = false) :
    (tone author).ProperMetadata :=
  ⟨nofun, h, nofun⟩

theorem Score.sameMusic_tone (author author' : Text) : (tone author).SameMusic (tone author') :=
  ⟨rfl, rfl, rfl⟩

/-- The letter sheet of that tone. -/
def LetterSheet.toneBy (author : Text) : Text := sheetText ["60", "0", "16", author, []] "A1 "

theorem LetterSheet.write_tone (author : Text) :
    Format.letterSheet.writer none (Score.tone author) = .ok { text := toneBy author } := by
  have hunits : unitsPerBeat (Score.tone author).beats = 1 := by
    show unitsPerBeat [{ rate := Rate.ofInt 1, tones := [0] }] = 1
    decide +kernel
  have hwords : (Score.tone author).beats.mapM (beatWords 1) = .ok [["A1"]] := by
    show [({ rate := Rate.ofInt 1, tones := [0] } : Beat)].mapM (beatWords 1) = _
    decide +kernel
  have htempo : Text.ofInt ((Score.tone author).bpm * (1 : Nat)) = "60" := by
    show Text.ofInt 60 = "60"
    decide
  have hlevel : Text.ofInt ((Score.tone author).keyNote % 12) = "0" := by
    show Text.ofInt 0 = "0"
    decide
  have hheader : header (Score.tone author) 1 = headerLine ["60", "0", "16", author, []] := by
    simp only [header, headerLine, Text.join, List.append_assoc, htempo, hlevel]
    rfl
  rw [Format.writer_letterSheet, write]
  simp only [hunits, hwords, hheader]
  rfl

/-- What looks like keys, and like the end of a mark, stays in the header. -/
theorem Format.metadata_unheard_sample :
    letterSheet.writer none (Score.tone "A") = .ok { text := LetterSheet.toneBy "A" }
      ∧ letterSheet.writer none (Score.tone "C5 > .")
        = .ok { text := LetterSheet.toneBy "C5 > ." }
      ∧ played? (letterSheet.reader none (LetterSheet.toneBy "A"))
        = played? (letterSheet.reader none (LetterSheet.toneBy "C5 > .")) := by
  refine ⟨LetterSheet.write_tone _, LetterSheet.write_tone _, ?_⟩
  have hunheard := metadata_unheard none (Score.sameMusic_tone _ _)
    (Score.properMetadata_tone (by decide)) (Score.properMetadata_tone (by decide))
    (LetterSheet.write_tone "A") (LetterSheet.write_tone "C5 > .")
  exact hunheard.1 ⟨⟨by decide, by decide⟩, ⟨by decide, by decide⟩⟩
    ⟨⟨by decide, by decide⟩, ⟨by decide, by decide⟩⟩

/-- **In a letter sheet metadata can be heard**: a line behind the author's name is read as keys. -/
theorem Format.metadata_heard : ¬∀ (f : Format) (keyLayout fileName : Option Text)
    (score score' : Score) (written written' : Written), score.SameMusic score' →
      score.ProperMetadata → score'.ProperMetadata → f.writer keyLayout score = .ok written →
      f.writer keyLayout score' = .ok written' →
      played? (f.reader fileName written.text) = played? (f.reader fileName written'.text) := by
  intro h
  have hsame := h .letterSheet none none _ _ _ _ (Score.sameMusic_tone _ _)
    (Score.properMetadata_tone (by decide)) (Score.properMetadata_tone (by decide))
    (LetterSheet.write_tone "A") (LetterSheet.write_tone "A\nC5")
  have hfirst : played? (letterSheet.reader none (LetterSheet.toneBy "A"))
      = some (0, 60, [{ rate := Rate.ofInt 4, tones := [0] }]) := by
    decide +kernel
  have hsecond : played? (letterSheet.reader none (LetterSheet.toneBy "A\nC5"))
      = some (0, 60, [{ rate := Rate.ofInt 1, tones := [24] },
        { rate := Rate.ofInt 4, tones := [0] }]) := by
    decide +kernel
  rw [hfirst, hsecond] at hsame
  exact absurd hsame (by decide)

end SongSheet
