import GoLayout.Config.Encode
import GoLayout.Trace
import GoLayout.CommandLine.Run
import GoLayout.Main
import GoLayout.Proofs.Document.Indentation
import GoLayout.Proofs.Text.Lines
import GoLayout.Proofs.Lexis.Tokens
import GoLayout.Proofs.Mode.Run
import GoLayout.Proofs.Mode.Tiling
import GoLayout.Proofs.Document.Stability
import GoLayout.Proofs.Document.Content
import GoLayout.Proofs.Layout.Absorb
import GoLayout.Proofs.Lexis.Brackets
import GoLayout.Proofs.Layout.Levels
import GoLayout.Proofs.Document.Depth
import GoLayout.Proofs.Layout.Effect
import GoLayout.Proofs.Mode.Calls
import GoLayout.Proofs.Mode.Soundness
import GoLayout.Proofs.Mode.Groups
import GoLayout.Proofs.Mode.Alignment
import GoLayout.Proofs.Mode.ClosingLines
import GoLayout.Proofs.Lexis.Closers
import GoLayout.Proofs.Mode.Continued
import GoLayout.Proofs.Lexis.Grammar
import GoLayout.Proofs.Document.Tabs
import GoLayout.Proofs.Document.Independence
import GoLayout.Proofs.Mode.LineStart
import GoLayout.Proofs.Document.Highlighting
import GoLayout.Proofs.Document.BlankLines
import GoLayout.Proofs.Document.Queries
import GoLayout.Proofs.Mode.Root
import GoLayout.Proofs.CommandLine.Effects
import GoLayout.Proofs.Document.Labels
import GoLayout.Proofs.Lexis.Numerals
import GoLayout.Proofs.Registry.History
import GoLayout.Proofs.Document.Widths
import GoLayout.Proofs.Mode.Columns
import GoLayout.Proofs.Mode.BaseColumn
import GoLayout.Proofs.Mode.Commenting
import GoLayout.Proofs.Mode.Cursors
import GoLayout.Proofs.Json.Grammar
import GoLayout.Proofs.Json.Strings
import GoLayout.Proofs.Json.Scalars
import GoLayout.Proofs.Json.Writing
import GoLayout.Proofs.Config.Decoding
