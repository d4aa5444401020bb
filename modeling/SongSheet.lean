import SongSheet.FileName
import SongSheet.Json.Distinct
import SongSheet.EventSheet
import SongSheet.LetterSheet
import SongSheet.CipherSheet
import SongSheet.Timeline
import SongSheet.Format
import SongSheet.Session
import SongSheet.Midi.File
import SongSheet.Settings
import SongSheet.Encoding
import SongSheet.Host.Disk
import SongSheet.Main
import SongSheet.Proofs.Transposition
import SongSheet.Proofs.CipherSheet.RoundTrip
import SongSheet.Proofs.LetterSheet.RoundTrip
import SongSheet.Proofs.Race
import SongSheet.Proofs.EventSheet.Rewriting
import SongSheet.Proofs.Script.RoundTrip
import SongSheet.Proofs.Conversion
import SongSheet.Proofs.Midi.Track
import SongSheet.Proofs.Alike
import SongSheet.Proofs.Metadata
import SongSheet.Proofs.Registry
import SongSheet.Proofs.Timeline.Retiming
import SongSheet.Proofs.Batch.Independence
import SongSheet.Proofs.Batch.Collision
import SongSheet.Proofs.Reading
import SongSheet.Proofs.Command.Export
import SongSheet.Proofs.Timeline.Tiling
import SongSheet.Proofs.Unison
import SongSheet.Proofs.Strict
import SongSheet.Proofs.Timeline.Release
import SongSheet.Proofs.Script.Content
import SongSheet.Proofs.Script.Failure
import SongSheet.Proofs.CipherSheet.Rewriting
import SongSheet.Proofs.CipherSheet.Meaning
import SongSheet.Proofs.CipherSheet.Padding
import SongSheet.Proofs.LetterSheet.Grammar
import SongSheet.Proofs.EventSheet.Meaning
import SongSheet.Proofs.Placement.Timing
import SongSheet.Proofs.Settings
import SongSheet.Proofs.Rate.Edit
import SongSheet.Proofs.KeyLayout
