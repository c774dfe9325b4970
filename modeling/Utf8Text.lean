import Utf8Text.Main
import Utf8Text.Readers
import Utf8Text.Registers
import Utf8Text.Sink.Script
import Utf8Text.StandardOutput
import Utf8Text.Writer.Limited
import Utf8Text.Proofs.Codec
import Utf8Text.Proofs.Decoding
import Utf8Text.Proofs.Reader
import Utf8Text.Proofs.Readers
import Utf8Text.Proofs.RoundTrip
import Utf8Text.Proofs.Sink
import Utf8Text.Proofs.Writer
import Utf8Text.Proofs.Boundary
import Utf8Text.Proofs.Slice
import Utf8Text.Proofs.Cut
import Utf8Text.Proofs.Sink.Limited
import Utf8Text.Proofs.LineBuffered
import Utf8Text.Proofs.StandardOutput
import Utf8Text.Proofs.ExitCode
import Utf8Text.Proofs.Lossy
import Utf8Text.Proofs.Report
import Utf8Text.Proofs.Quoted
import Utf8Text.Proofs.Standard
import Utf8Text.Proofs.Json
import Utf8Text.Proofs.Numeral
import Utf8Text.Proofs.Runs
import Utf8Text.Proofs.Observation
import Utf8Text.Proofs.Listing
import Utf8Text.Proofs.Agreement
import Utf8Text.Proofs.Ignored
import Utf8Text.Proofs.Window
import Utf8Text.Proofs.Pipe
import Utf8Text.Proofs.CodepointArgument
import Utf8Text.Proofs.Directive
import Utf8Text.Proofs.Subscriber
import Utf8Text.Proofs.Position
import Utf8Text.Proofs.Snippet
import Utf8Text.Proofs.Encoding
import Utf8Text.Proofs.Order
import Utf8Text.Proofs.Caret
import Utf8Text.Proofs.Registers
import Utf8Text.Proofs.EncodedListing
import Utf8Text.Proofs.Positional
import Utf8Text.Proofs.Position.Growth
import Utf8Text.Proofs.Palette
import Utf8Text.Proofs.Verbosity
