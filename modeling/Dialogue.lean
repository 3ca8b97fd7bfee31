import Dialogue.Main
import Dialogue.Proofs.Grammar.RoundTrip
import Dialogue.Proofs.Substitution.Chain
import Dialogue.Proofs.Lexer.Moves
import Dialogue.Proofs.Lexer.Pairing
import Dialogue.Proofs.Lexer.Positions
import Dialogue.Proofs.Conversation.Loading
import Dialogue.Proofs.Grammar.Composition
import Dialogue.Proofs.Grammar.LineEndings
import Dialogue.Proofs.Input.Buffering
import Dialogue.Proofs.Command.Tokens
import Dialogue.Proofs.Lexer.Lexemes
import Dialogue.Proofs.Command.Image
import Dialogue.Proofs.Grammar.Layout
import Dialogue.Proofs.Substitution.Again
import Dialogue.Proofs.CommandLine.Agreement
import Dialogue.Proofs.Json.Values
import Dialogue.Proofs.Command.Protocol
import Dialogue.Proofs.Command.Replays
import Dialogue.Proofs.Lexer.Stops
import Dialogue.Proofs.Text.Utf8Exact
import Dialogue.Proofs.Input.Decoding
import Dialogue.Proofs.Input.Lookahead
import Dialogue.Proofs.Conversation.Effects
import Dialogue.Proofs.Text.Quoting
import Dialogue.Proofs.Trace.Rendering
import Dialogue.Proofs.Substitution.Names
import Dialogue.Proofs.CommandLine.Requests
import Dialogue.Proofs.Lexer.BlockLines
import Dialogue.Proofs.Lexer.Progress
import Dialogue.Proofs.Settings.Layering
