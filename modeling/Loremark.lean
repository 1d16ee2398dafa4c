import Loremark.Json.Read
import Loremark.Json.Write
import Loremark.Embed.Reinsert
import Loremark.Embed.Format
import Loremark.Markdown.LineBreak
import Loremark.Spoiler.Gate
import Loremark.Entity.Widget
import Loremark.Tree.Page
import Loremark.Preview.Watch
import Loremark.Document.Steps
import Loremark.Tree.Build
import Loremark.Config.File
import Loremark.Config.Environment
import Loremark.Client.Store
import Loremark.Command.Run
import Loremark.Log.Sinks
import Loremark.Log.Template
import Loremark.Main
import Loremark.Proofs.Results
import Loremark.Proofs.Text.Numerals
import Loremark.Proofs.Entity.Spellings
import Loremark.Proofs.Tree.Redaction
import Loremark.Proofs.Embed.Token
import Loremark.Proofs.Embed.Extraction
import Loremark.Proofs.Embed.Restoration
import Loremark.Proofs.Tree.Outline
import Loremark.Proofs.Tree.Building
import Loremark.Proofs.Embed.Clearing
import Loremark.Proofs.Embed.Reinsertion
import Loremark.Proofs.Embed.Rescan
import Loremark.Proofs.Embed.Readable
import Loremark.Proofs.Spoiler.Marker
import Loremark.Proofs.Tree.Refusals
import Loremark.Proofs.Tree.Strings
import Loremark.Proofs.Tree.Leaks
import Loremark.Proofs.Markdown.Rows
import Loremark.Proofs.Markdown.Chunks
import Loremark.Proofs.Markdown.Openings
import Loremark.Proofs.Markdown.RowBlocks
import Loremark.Proofs.Markdown.PlainText
import Loremark.Proofs.Tree.Tags
import Loremark.Proofs.Tree.Exposure
import Loremark.Proofs.Tree.Gathering
import Loremark.Proofs.Tree.Nesting
import Loremark.Proofs.Tree.Divisions
import Loremark.Proofs.Preview.Progress
import Loremark.Proofs.Preview.Turns
import Loremark.Proofs.Preview.Watching
import Loremark.Proofs.Preview.Settling
import Loremark.Proofs.Preview.Unmounting
import Loremark.Proofs.Tree.Slots
import Loremark.Proofs.Preview.Sessions
import Loremark.Proofs.Document.Moves
import Loremark.Proofs.Preview.Scripts
import Loremark.Proofs.Preview.Asking
import Loremark.Proofs.Document.Resolution
import Loremark.Proofs.Preview.Stretches
import Loremark.Proofs.Document.FailedUpdate
import Loremark.Proofs.Document.FailedMount
import Loremark.Proofs.Tree.SlotOrder
import Loremark.Proofs.Html.Nesting
import Loremark.Proofs.Html.Restoring
import Loremark.Proofs.Html.Widgets
import Loremark.Proofs.Markdown.PlainOutput
import Loremark.Proofs.Tree.Output
import Loremark.Proofs.Text.Vocabulary
import Loremark.Proofs.Markdown.Pairs
import Loremark.Proofs.Markdown.Spans
import Loremark.Proofs.Markdown.Places
import Loremark.Proofs.Markdown.RunningText
import Loremark.Proofs.Markdown.TakenLines
import Loremark.Proofs.Markdown.BlockReadings
import Loremark.Proofs.Markdown.BlockWords
import Loremark.Proofs.Markdown.LastLine
import Loremark.Proofs.Markdown.CodeContents
import Loremark.Proofs.Markdown.WrittenChars
import Loremark.Proofs.Tree.OutlineWords
import Loremark.Proofs.Embed.TokenWords
import Loremark.Proofs.Tree.Pages
import Loremark.Proofs.Document.Placeholders
import Loremark.Proofs.Tree.Reading
import Loremark.Proofs.Tree.Modes
import Loremark.Proofs.Embed.Addresses
import Loremark.Proofs.Markdown.Targets
import Loremark.Proofs.Markdown.Definitions
import Loremark.Proofs.Tree.Framing
import Loremark.Proofs.Tree.Addresses
import Loremark.Proofs.Embed.Splitting
import Loremark.Proofs.Spoiler.Mentions
import Loremark.Proofs.Tree.Regions
import Loremark.Proofs.Tree.Thresholds
import Loremark.Proofs.Tree.Classes
import Loremark.Proofs.Tree.Cells
import Loremark.Proofs.Tree.Markers
import Loremark.Proofs.Embed.Escaping
import Loremark.Proofs.Embed.Formatting
import Loremark.Proofs.Text.Pattern
import Loremark.Proofs.Spoiler.Patterns
import Loremark.Proofs.Markdown.LineBreaks
import Loremark.Proofs.Tree.Paragraphs
import Loremark.Proofs.Tree.Alone
import Loremark.Proofs.Tree.Cards
import Loremark.Proofs.Tree.Regrouping
import Loremark.Proofs.Tree.Descent
import Loremark.Proofs.Config.Validity
import Loremark.Proofs.Json.Strings
import Loremark.Proofs.Json.Numbers
import Loremark.Proofs.Json.Documents
import Loremark.Proofs.Client.Lookup
import Loremark.Proofs.Tree.Cutting
import Loremark.Proofs.Tree.Walking
