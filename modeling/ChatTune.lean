import ChatTune.Main
import ChatTune.Proofs.Score.Octaves
import ChatTune.Proofs.Score.Earliest
import ChatTune.Proofs.Score.Limit
import ChatTune.Proofs.Score.Brackets
import ChatTune.Proofs.Score.Separation
import ChatTune.Proofs.CommandLine.Program
import ChatTune.Proofs.Notation.Essence
import ChatTune.Proofs.Playback.Decoding
import ChatTune.Proofs.Chat.Separator
import ChatTune.Proofs.CommandLine.Lines
import ChatTune.Proofs.Score.Sustaining
import ChatTune.Proofs.Score.Chords
import ChatTune.Proofs.Score.Clamping
import ChatTune.Proofs.Score.Spacing
import ChatTune.Proofs.Score.Totals
import ChatTune.Proofs.Score.Exchanges
import ChatTune.Proofs.Score.Directions
import ChatTune.Proofs.Score.Journal
import ChatTune.Proofs.Score.FirstNote
import ChatTune.Proofs.Playback.Frequencies
import ChatTune.Proofs.Settings.Loading
