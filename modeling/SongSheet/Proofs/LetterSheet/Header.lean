import SongSheet.Proofs.LetterSheet.Refusal
import SongSheet.Proofs.LetterSheet.RoundTrip
import SongSheet.Proofs.Score

/-!
# Headers of letter sheets

A header ends with the author and the transcriber, written as they are. The reader takes tempo and
level from its first words and cuts it off at the end of its line, so **metadata without a line
break leave the music alone** (`played?_write`), whatever else they hold: with blanks they spread
over more words, but behind those that are looked at.

A line break in them is a different matter. What stands behind it comes before the keys and is read
as keys.
-/

set_option autoImplicit false

namespace SongSheet.LetterSheet

/-- A text without a line break. -/
structure OneLine (t : Text) : Prop where
  noFeed : ('\n' : CodePoint) ∉ t
  noReturn : ('\r' : CodePoint) ∉ t

/-! ## 1. Sheets with any header -/

variable {hs : List Text} {body : Text}

theorem headerLine_ne_nil (hs : List Text) : headerLine hs ≠ [] :=
  List.append_ne_nil_of_left_ne_nil (by decide) _

theorem head_sheetText (hs : List Text) (body : Text) :
    ∀ c ∈ (headerLine hs ++ body).head?, c.isBlank = false := by
  intro c hc
  obtain rfl : '<' = c := Option.some.inj hc
  decide

theorem OneLine.headerLine (h : OneLine (Text.join " " hs)) : OneLine (headerLine hs) where
  noFeed := by
    simp only [LetterSheet.headerLine, List.mem_append, not_or]
    exact ⟨by decide, by decide, h.noFeed⟩
  noReturn := by
    simp only [LetterSheet.headerLine, List.mem_append, not_or]
    exact ⟨by decide, by decide, h.noReturn⟩

/-- Without keys the header has no line of its own. -/
theorem read_of_blank (fileName : Option Text) (h : OneLine (Text.join " " hs))
    (hbody : ∀ c ∈ body, c.isBlank = true) : ∃ e, read fileName (sheetText hs body) = .error e := by
  have hheader := h.headerLine
  have hblank : ∀ c ∈ ("\n" : Text) ++ body, c.isBlank = true := by
    intro c hc
    rcases List.mem_append.mp hc with hc | hc
    · obtain rfl := List.mem_singleton.mp hc
      decide
    · exact hbody c hc
  have hmem : ∀ c ∈ Text.trim (sheetText hs body), c ∈ headerLine hs := by
    intro c hc
    rw [sheetText, List.append_assoc] at hc
    refine Text.mem_of_mem_trim_append ?_ (headerLine_ne_nil hs) hblank hc
    simpa using head_sheetText hs []
  refine read_of_oneLine fileName ?_
  rw [Text.unixLines_eq_self fun hc => hheader.noReturn (hmem _ hc)]
  exact fun hc => hheader.noFeed (hmem _ hc)

/-- **A header on one line comes off whole**, and the key lines lose the blanks at their end. -/
theorem splitHeader_of_oneLine (h : OneLine (Text.join " " hs))
    (hbody : ∃ c ∈ body, c.isBlank = false) :
    splitHeader (sheetText hs body) = .ok (Text.trim (Text.join " " hs),
      Text.unixLines (body.reverse.dropWhile CodePoint.isBlank).reverse) := by
  have htrim : Text.trim (sheetText hs body)
      = sheetText hs (body.reverse.dropWhile CodePoint.isBlank).reverse := by
    refine Text.trim_append ?_ ?_ hbody
    · exact head_sheetText hs _
    · exact List.append_ne_nil_of_left_ne_nil (headerLine_ne_nil hs) _
  generalize (body.reverse.dropWhile CodePoint.isBlank).reverse = keyLines at *
  have hunix : Text.unixLines (sheetText hs keyLines) = sheetText hs (Text.unixLines keyLines) := by
    refine Text.unixLines_append ?_ keyLines
    rw [List.mem_append, not_or]
    exact ⟨h.headerLine.noReturn, by decide⟩
  have hsome : (sheetText hs (Text.unixLines keyLines)).isEmpty = false := rfl
  have hline : Text.cut? "\n" ((" " : Text) ++ Text.join " " hs
      ++ ('\n' : CodePoint) :: Text.unixLines keyLines)
        = some ((" " : Text) ++ Text.join " " hs, Text.unixLines keyLines) := by
    refine Text.cut?_singleton ?_ _
    rw [List.mem_append, not_or]
    exact ⟨by decide, h.noFeed⟩
  have hheader : Text.trim ((" " : Text) ++ Text.join " " hs) = Text.trim (Text.join " " hs) :=
    Text.trim_cons (by decide)
  unfold splitHeader
  simp only [htrim, hunix, hsome, contains_mark, cut?_mark, hline, hheader]
  rfl

/-! ## 2. What the reader looks at -/

variable {tempo level page : Text}

/-- The first two words of a header do not depend on what follows them. -/
theorem exists_words_header (htempo : Text.IsWord tempo) (hlevel : Text.IsWord level)
    (hpage : Text.IsWord page) (rest : List Text) :
    ∃ others, Text.words (Text.trim (Text.join " " (tempo :: level :: page :: rest)))
      = tempo :: level :: others := by
  have hfront : ∃ v, Text.join " " (tempo :: level :: page :: rest)
      = Text.join " " [tempo, level, page] ++ v := by
    cases rest with
    | nil => exact ⟨[], by simp⟩
    | cons next rest => exact ⟨(" " : Text) ++ Text.join " " (next :: rest), by simp [Text.join]⟩
  obtain ⟨v, hv⟩ := hfront
  have hwords : ∀ w ∈ [tempo, level, page], Text.IsWord w := by
    simp only [List.mem_cons, List.not_mem_nil, or_false]
    rintro w (rfl | rfl | rfl)
    · exact htempo
    · exact hlevel
    · exact hpage
  obtain ⟨v', -, htrim⟩ := Text.exists_trim_append (Text.join_head hwords) (Text.join_last hwords)
    (by simp [Text.join, htempo.1]) v
  have hsplit : Text.join " " [tempo, level, page] ++ v'
      = tempo ++ (' ' : CodePoint) :: (level ++ (' ' : CodePoint) :: (page ++ v')) := by
    simp [Text.join, Text.ofString]
  refine ⟨Text.words (page ++ v'), ?_⟩
  rw [hv, htrim, hsplit, Text.words_append htempo (by decide), Text.words_append hlevel (by decide)]

/-- What is played of a sheet comes from two words of its header and from its key lines. -/
theorem played?_of_splitHeader (fileName : Option Text) {t header keyLines : Text}
    {others : List Text} (hsplit : splitHeader t = .ok (header, keyLines))
    (hwords : Text.words header = tempo :: level :: others) :
    played? (read fileName t) = played? (do
      let keyNote ← Score.checkPitchLevel (Json.ofInt? (Text.leadingInt? level))
      let bpm ← Score.checkBpm (Json.ofInt? (Text.leadingInt? tempo))
      let beats ← readKeys keyLines
      return { keyNote, bpm, beats }) := by
  unfold read
  rw [hsplit, ok_bind]
  simp only [readHeader, hwords, List.getD_cons_zero, List.getD_cons_succ]
  cases Score.checkPitchLevel (Json.ofInt? (Text.leadingInt? level)) with
  | error e => rfl
  | ok keyNote =>
    cases Score.checkBpm (Json.ofInt? (Text.leadingInt? tempo)) with
    | error e => rfl
    | ok bpm => cases readKeys keyLines <;> rfl

/-- **Behind the first words a header may go on as it likes**, as long as it stays on its line. -/
theorem played?_sheetText (fileName : Option Text) (htempo : Text.IsWord tempo)
    (hlevel : Text.IsWord level) (hpage : Text.IsWord page) {rest rest' : List Text}
    (h : OneLine (Text.join " " (tempo :: level :: page :: rest)))
    (h' : OneLine (Text.join " " (tempo :: level :: page :: rest'))) (body : Text) :
    played? (read fileName (sheetText (tempo :: level :: page :: rest) body))
      = played? (read fileName (sheetText (tempo :: level :: page :: rest') body)) := by
  by_cases hbody : ∀ c ∈ body, c.isBlank = true
  · rw [played?_eq_none (read_of_blank fileName h hbody),
      played?_eq_none (read_of_blank fileName h' hbody)]
  · have hkeys : ∃ c ∈ body, c.isBlank = false := by simpa using hbody
    obtain ⟨others, hwords⟩ := exists_words_header htempo hlevel hpage rest
    obtain ⟨others', hwords'⟩ := exists_words_header htempo hlevel hpage rest'
    rw [played?_of_splitHeader fileName (splitHeader_of_oneLine h hkeys) hwords,
      played?_of_splitHeader fileName (splitHeader_of_oneLine h' hkeys) hwords']

/-! ## 3. Written sheets -/

theorem isWord_ofInt (n : Int) : Text.IsWord (.ofInt n) := by
  refine ⟨?_, ?_⟩
  · rw [Text.ofInt]
    split
    · exact List.cons_ne_nil _ _
    · exact Text.ofNat_ne_nil _
  · intro c hc
    rcases Text.mem_ofInt hc with rfl | hdigit
    · decide
    · exact Text.isBlank_of_isDigit (CodePoint.isDigit_of_between hdigit)

/-- A written sheet: the words of its header, and the key lines, which only the beats decide. -/
theorem exists_body_of_write {score : Score} {t : Text} (h : write score = .ok t) :
    ∃ words, score.beats.mapM (beatWords (unitsPerBeat score.beats)) = .ok words
      ∧ t = sheetText [.ofInt (score.bpm * unitsPerBeat score.beats), .ofInt (score.keyNote % 12),
          "16", score.author.display, score.transcriber.display]
        (words.flatten.flatMap (· ++ (" " : Text))) := by
  obtain ⟨words, hwords, h⟩ := bind_eq_ok h
  refine ⟨words, hwords, ?_⟩
  rw [← Except.ok.inj h]
  simp only [sheetText, headerLine, header, Text.join, List.append_assoc]

/-- The header of a written sheet is on one line if the metadata are. -/
theorem oneLine_header {score : Score} (hauthor : OneLine score.author.display)
    (htranscriber : OneLine score.transcriber.display) (m n : Int) :
    OneLine (Text.join " " [.ofInt m, .ofInt n, "16", score.author.display,
      score.transcriber.display]) := by
  have hnumeral : ∀ (c : CodePoint) (n : Int), c.isBlank = true → c ∉ Text.ofInt n := by
    intro c n hc hmem
    rw [(isWord_ofInt n).2 c hmem] at hc
    cases hc
  constructor
  · simp only [Text.join, List.mem_append, not_or]
    exact ⟨⟨hnumeral _ _ (by decide), by decide⟩, ⟨hnumeral _ _ (by decide), by decide⟩,
      by decide, ⟨hauthor.noFeed, by decide⟩, htranscriber.noFeed⟩
  · simp only [Text.join, List.mem_append, not_or]
    exact ⟨⟨hnumeral _ _ (by decide), by decide⟩, ⟨hnumeral _ _ (by decide), by decide⟩,
      by decide, ⟨hauthor.noReturn, by decide⟩, htranscriber.noReturn⟩

/-- **Metadata without a line break do not change what is played of a letter sheet.** -/
theorem played?_write (fileName : Option Text) {score score' : Score} {t t' : Text}
    (h : score.SameMusic score') (hwrite : write score = .ok t) (hwrite' : write score' = .ok t')
    (hauthor : OneLine score.author.display) (htranscriber : OneLine score.transcriber.display)
    (hauthor' : OneLine score'.author.display)
    (htranscriber' : OneLine score'.transcriber.display) :
    played? (read fileName t) = played? (read fileName t') := by
  obtain ⟨words, hwords, rfl⟩ := exists_body_of_write hwrite
  obtain ⟨words', hwords', rfl⟩ := exists_body_of_write hwrite'
  rw [← h.beats, hwords] at hwords'
  obtain rfl := Except.ok.inj hwords'
  rw [← h.keyNote, ← h.bpm, ← h.beats]
  exact played?_sheetText fileName (isWord_ofInt _) (isWord_ofInt _) ⟨by decide, by decide⟩
    (oneLine_header hauthor htranscriber _ _) (oneLine_header hauthor' htranscriber' _ _) _

end SongSheet.LetterSheet
