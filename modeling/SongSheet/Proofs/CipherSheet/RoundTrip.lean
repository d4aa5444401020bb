import SongSheet.Proofs.CipherSheet.Comment
import SongSheet.Proofs.CipherSheet.Acceptance

/-!
# Cipher sheets — what is written is read back

The reader undoes the writer up to what a cipher sheet cannot say: the key is a place in the octave,
a beat without time is left out, and a rate is in lowest terms. Everything else comes back as it
was, and the conditions are those that the notation itself sets: one line of metadata that does not
end the comment, and no tone twice in a beat.
-/

set_option autoImplicit false

namespace SongSheet.CipherSheet

/-- The music of a written sheet is the music that spells the score. -/
theorem music_write {score : Score} {name author transcriber : Text}
    (hname : score.name = .string name) (hauthor : score.author = .string author)
    (htranscriber : score.transcriber = .string transcriber)
    (hnameLine : FillsLine name) (hauthorLine : FillsLine author)
    (htranscriberLine : FillsLine transcriber) (hbpm : 0 < score.bpm)
    (hden : ∀ b ∈ score.beats, 0 < b.rate.den) (hlasts : ∃ b ∈ score.beats, b.Lasts) :
    music (write score) = (musicOf score).render := by
  have hwell := wellFormed_musicOf hlasts
  have hfeed : Quiet "\n" := Quiet.of_not_mem (by decide)
  have hquiet : Quiet (("\n" : Text) ++ ((musicOf score).bracket ++ (("\n" : Text)
      ++ (musicOf score).body))) :=
    hfeed.append ((Music.quiet_bracket hwell).append (hfeed.append (Music.quiet_body hwell)))
  have hwrite : write score = ("/*" : Text) ++ headerBody name author transcriber ++ ("*/" : Text)
      ++ (("\n" : Text) ++ ((musicOf score).bracket ++ (("\n" : Text)
        ++ (musicOf score).body))) := by
    rw [write, headerText_eq hname hauthor htranscriber, bracket_musicOf hbpm, body_musicOf hden]
    simp only [List.append_assoc]
  have hbody := headerBody_open hnameLine.noEnd hauthorLine.noEnd htranscriberLine.noEnd
  calc music (write score)
      = music (("\n" : Text) ++ ((musicOf score).bracket ++ (("\n" : Text)
          ++ (musicOf score).body))) := by
        rw [hwrite, music, dropBlockComments_comment hbody, ← music]
    _ = Text.squeeze (musicOf score).render := by
        rw [music_of_quiet hquiet]
        simp only [Text.squeeze_append, Music.render]
        rfl
    _ = (musicOf score).render := Music.squeeze_of_spells (Music.spells_render hwell)

/-- The beats that a cipher sheet can say: those that take time, with their rates in lowest
terms. -/
def spoken (beats : List Beat) : List Beat :=
  (beats.filter (·.Lasts)).map fun b => { rate := .ofRat b.rate.value, tones := b.tones }

/-- **Reading a written cipher sheet gives the score back**, its key as a place in the octave and
its beats as far as the notation can say them. -/
theorem read_written {score : Score} {name author transcriber : Text}
    (hname : score.name = .string name) (hauthor : score.author = .string author)
    (htranscriber : score.transcriber = .string transcriber)
    (hnameLine : FillsLine name) (hauthorLine : FillsLine author)
    (htranscriberLine : FillsLine transcriber) (hbpm : 0 < score.bpm)
    (hden : ∀ b ∈ score.beats, 0 < b.rate.den) (hnodup : ∀ b ∈ score.beats, b.tones.Nodup)
    (hlasts : ∃ b ∈ score.beats, b.Lasts) :
    read none (write score) = .ok { score with
      keyNote := score.keyNote % 12
      beats := spoken score.beats } := by
  have hmusic := music_write hname hauthor htranscriber hnameLine hauthorLine htranscriberLine hbpm
    hden hlasts
  have hheader : write score = ("/*" : Text) ++ headerBody name author transcriber ++ ("*/" : Text)
      ++ (("\n" : Text) ++ (bracketText score ++ (("\n" : Text)
        ++ score.beats.flatMap beatText))) := by
    rw [write, headerText_eq hname hauthor htranscriber]
    simp only [List.append_assoc]
  obtain ⟨hreadName, hreadAuthor, hreadTranscriber⟩ :
      headerValue (write score) .name = name ∧ headerValue (write score) .author = author
        ∧ headerValue (write score) .transcribedBy = transcriber := by
    rw [hheader]
    exact headerValue_of_header hnameLine hauthorLine htranscriberLine _
  -- Without a title the name of the file would stand in, and there is none.
  have htitle : title none (write score) = name := by
    rw [title, hreadName]
    split
    case isTrue hempty =>
      rw [List.isEmpty_iff.mp hempty]
      decide
    case isFalse => rfl
  have htempo := tempo_musicOf hbpm
  have hbeats := toBeats_musicOf hden hnodup
  rw [read, hmusic, Music.ofText?_render (wellFormed_musicOf hlasts)]
  simp only [htempo, hbeats, htitle, hreadAuthor, hreadTranscriber, keyNote_musicOf, bind,
    Except.bind, ← hname, ← hauthor, ← htranscriber]
  rfl

/-- Marks of comments and rates in the metadata, tones in far octaves, a beat without time. -/
theorem read_written_sample :
    let score : Score := {
      name := .string "/* 1*2/3 //"
      author := .string []
      transcriber := .string "b: *"
      keyNote := -1
      bpm := 90
      beats := [⟨⟨6, 4, by decide⟩, [-1, 13, 40, -30]⟩, ⟨⟨0, 7, by decide⟩, [5]⟩,
        ⟨⟨3, 3, by decide⟩, []⟩] }
    read none (write score) = .ok { score with
      keyNote := 11
      beats := [⟨⟨3, 2, by decide⟩, [-1, 13, 40, -30]⟩, ⟨⟨1, 1, by decide⟩, []⟩] } :=
  read_written rfl rfl rfl ⟨by decide, by decide, by decide, by decide⟩ fillsLine_nil
    ⟨by decide, by decide, by decide, by decide⟩ (by decide) (by decide) (by decide) (by decide)

end SongSheet.CipherSheet
