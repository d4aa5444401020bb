import SongSheet.Proofs.Json.RoundTrip
import SongSheet.Proofs.Placement
import SongSheet.Proofs.Script.Call
import SongSheet.Proofs.Timeline.Items

/-!
# Scripts — the content of a written one

A timeline is written with the labels of a layout, which may be any texts: quotation marks and
backslashes, line ends and control characters, braces that close nothing. It is put into the script
with the escapes of JSON and taken out of it with those of the player's language. **What comes out
is what went in** (`readCalls_write`), so that no label can end the script or change another one.
-/

set_option autoImplicit false

namespace SongSheet.Script

variable {score : Score} {name text : Text}

/-- The content of a script is free of surrogates when its labels are. -/
theorem isSurrogate_of_mem_content {layout : KeyLayout} {strokes : List Stroke} {c : CodePoint}
    (hlabels : ∀ key ∈ layout.keys, ∀ d ∈ key.display, d.isSurrogate = false)
    (hc : c ∈ Timeline.write (layout.keys.map Json.display) strokes) : c.isSurrogate = false := by
  obtain ⟨label, hlabel, hmem⟩ | hascii := Timeline.mem_write hc
  · obtain ⟨key, hkey, rfl⟩ := List.mem_map.mp hlabel
    exact hlabels key hkey c hmem
  · exact isSurrogate_of_ascii hascii

/-- **A script that was written for any layout is one call, with the name, the content and the
version as they were before they were escaped.** The content is written for the strokes that the
score has on the keys of the layout. -/
theorem readCalls_write {keyLayout : Option Text} {layout : KeyLayout}
    (hname : score.name = .string name) (hsurrogates : ∀ c ∈ name, c.isSurrogate = false)
    (hlayout : layoutFor keyLayout = .ok layout)
    (hlabels : ∀ key ∈ layout.keys, ∀ c ∈ key.display, c.isSurrogate = false)
    (h : write keyLayout score = .ok text) :
    ∃ placement, Placement.place score layout = .ok placement
      ∧ List.Forall₂ (Placement.IsStrokeOf score layout placement.shift) score.beats
        placement.strokes
      ∧ readCalls text = .ok [[.text name,
        .text (Timeline.write (layout.keys.map Json.display) placement.strokes),
        .int Timeline.version]] := by
  rw [write, hlayout, ok_bind] at h
  obtain ⟨placement, hplace, hwritten⟩ := bind_eq_ok h
  obtain ⟨-, hstrokes⟩ := Placement.strokes_of_place hplace
  refine ⟨placement, hplace, hstrokes, ?_⟩
  have htext : call (.string name) (Timeline.write (layout.keys.map Json.display) placement.strokes)
      = text := by
    rw [← hname]
    exact Except.ok.inj hwritten
  rw [← htext]
  exact readCalls_call hsurrogates fun c hc => isSurrogate_of_mem_content hlabels hc

/-- A layout that is written as a text is the one that is written for. -/
theorem layoutFor_render {v : Json} (h : Json.Plain v) :
    layoutFor (some (v.render .compact)) = KeyLayout.ofJson v := by
  have hread := Json.read_render h
  obtain ⟨c, t, hcons, -⟩ := Json.render_eq_cons v
  rw [hcons] at hread ⊢
  show KeyLayout.read (c :: t) = _
  rw [KeyLayout.read, hread]

/-- Labels that need escapes: a quotation mark, a backslash with the letter of an escape, and an
open brace behind two line ends. -/
def escapedLabels : List Json := [.string "\"", .string "\\n", .string "\u2028\n\x7b"]

/-- A description of the layout with those labels. -/
def escapedKeys : Json :=
  .object [("keys", .array escapedLabels), ("keyOffset", .int 0), ("semitone", .bool false)]

example : escapedKeys.render .compact = "\x7b\"keys\":[\"\\\"\",\"\\\\n\",\"\u2028\\n\x7b\"]"
    ++ ",\"keyOffset\":0,\"semitone\":false\x7d" := by
  decide +kernel

/-- The labels need escapes, and the name ends its script and starts another one. -/
theorem readCalls_write_sample :
    let score : Score := {
      name := .string "\",\"\",2)\nparseGenshinImpactMusic(\""
      bpm := 120
      beats := [⟨⟨1, 1, by decide⟩, [0, 4]⟩, ⟨⟨1, 2, by decide⟩, []⟩, ⟨⟨0, 1, by decide⟩, [2]⟩] }
    ∃ text, write (some (escapedKeys.render .compact)) score = .ok text
      ∧ readCalls text = .ok [[.text "\",\"\",2)\nparseGenshinImpactMusic(\"",
        .text "\"\u2028\n\x7b<500>250 \\n", .int 2]] := by
  intro score
  have hlayout : layoutFor (some (escapedKeys.render .compact)) = .ok { keys := escapedLabels } :=
    layoutFor_render ⟨by decide, ⟨trivial, trivial, trivial, trivial⟩, trivial, trivial, trivial⟩
  have hplace : Placement.place score { keys := escapedLabels }
      = .ok ⟨0, [⟨[0, 2], 500⟩, ⟨[], 250⟩, ⟨[1], 0⟩]⟩ := by
    decide +kernel
  obtain ⟨text, hwrite⟩ : ∃ text, write (some (escapedKeys.render .compact)) score = .ok text := by
    rw [write, hlayout, ok_bind, hplace]
    exact ⟨_, rfl⟩
  obtain ⟨placement, hplaced, -, hread⟩ :=
    readCalls_write rfl (by decide) hlayout (by decide) hwrite
  obtain rfl := Except.ok.inj (hplace.symm.trans hplaced)
  exact ⟨text, hwrite, hread⟩

end SongSheet.Script
