import MonkeyTokens.Text.Lines
import MonkeyTokens.Text.Quoted
import MonkeyTokens.Alphabet
import MonkeyTokens.Kind
import MonkeyTokens.Layout
import MonkeyTokens.Cursor
import MonkeyTokens.Stream
import MonkeyTokens.Fault
import MonkeyTokens.Log.Filter
import MonkeyTokens.Listing
import MonkeyTokens.Session
import MonkeyTokens.Command
import MonkeyTokens.Folder
import MonkeyTokens.Main
import MonkeyTokens.Proofs.Munch
import MonkeyTokens.Proofs.Settled
import MonkeyTokens.Proofs.Grammar
import MonkeyTokens.Proofs.Concatenation
import MonkeyTokens.Proofs.Printing
import MonkeyTokens.Proofs.Remaining
import MonkeyTokens.Proofs.Requests
import MonkeyTokens.Proofs.LineCuts
import MonkeyTokens.Proofs.Glyphs
import MonkeyTokens.Proofs.Strays
import MonkeyTokens.Proofs.ShownLines
import MonkeyTokens.Proofs.Transcript
import MonkeyTokens.Proofs.LineByLine
import MonkeyTokens.Proofs.Disclosure
import MonkeyTokens.Proofs.FailingSinks
import MonkeyTokens.Proofs.Validity
import MonkeyTokens.Proofs.LineEndings
import MonkeyTokens.Proofs.ReadingBack
import MonkeyTokens.Proofs.Exits
import MonkeyTokens.Proofs.Moves
import MonkeyTokens.Proofs.Progress
import MonkeyTokens.Proofs.WrittenFilters
import MonkeyTokens.Proofs.Logging
import MonkeyTokens.Proofs.Arguments
import MonkeyTokens.Proofs.Vocabulary
import MonkeyTokens.Proofs.Trials
import MonkeyTokens.Proofs.Offsets
import MonkeyTokens.Proofs.Unfailing
import MonkeyTokens.Proofs.Slices
