import FrameLens.Files.Machine
import FrameLens.Main
import FrameLens.Proofs.Lexis.Splitting
import FrameLens.Proofs.Strategies
import FrameLens.Proofs.Lexis.Locality
import FrameLens.Proofs.Lines
import FrameLens.Proofs.Signatures.Walks
import FrameLens.Proofs.Signatures.Statements
import FrameLens.Proofs.Snippets
import FrameLens.Proofs.Nearby
import FrameLens.Proofs.Outcomes
import FrameLens.Proofs.Occurrences.Order
import FrameLens.Proofs.Decorations.Grammar
import FrameLens.Proofs.Decorations.Dialects
import FrameLens.Proofs.Nesting.Partners
import FrameLens.Proofs.Nesting.Angles
import FrameLens.Proofs.Pieces
import FrameLens.Proofs.Headers.Extents
import FrameLens.Proofs.Headers.Shapes
import FrameLens.Proofs.Headers.Controls
import FrameLens.Proofs.Signatures.Blocks
import FrameLens.Proofs.Recursion
import FrameLens.Proofs.Lexis.Survivors
import FrameLens.Proofs.Lexis.Recleaning
import FrameLens.Proofs.Lexis.LineEndings
import FrameLens.Proofs.Sources.Sessions
import FrameLens.Proofs.Sources.Workers
import FrameLens.Proofs.Text.Decimals
import FrameLens.Proofs.Stack.Patterns
import FrameLens.Proofs.Stack.Listings
import FrameLens.Proofs.Stack.Printing
import FrameLens.Proofs.Stack.FunctionNames
import FrameLens.Proofs.Text.Encodings
import FrameLens.Proofs.Text.Decoding
import FrameLens.Proofs.Json.Numbers
import FrameLens.Proofs.Json.Strings
import FrameLens.Proofs.Json.Values
import FrameLens.Proofs.Json.RoundTrip
import FrameLens.Proofs.Json.Ascii
import FrameLens.Proofs.Json.Reading
import FrameLens.Proofs.Files.Writing
import FrameLens.Proofs.Settings.Storage
import FrameLens.Proofs.Settings.Ranges
import FrameLens.Proofs.Settings.Loading
import FrameLens.Proofs.Settings.Refusals
import FrameLens.Proofs.Settings.Remapping
import FrameLens.Proofs.Prompt.Stores
import FrameLens.Proofs.Prompt.Histories
import FrameLens.Proofs.Prompt.SharedStores
import FrameLens.Proofs.Prompt.Fences
import FrameLens.Proofs.Report.Tables
import FrameLens.Proofs.Text.Halves
import FrameLens.Proofs.CommandLine.Reading
import FrameLens.Proofs.CommandLine.Runs
import FrameLens.Proofs.CommandLine.Findings
import FrameLens.Proofs.CommandLine.Forms
import FrameLens.Proofs.CommandLine.Remaps
