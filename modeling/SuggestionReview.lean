import SuggestionReview.Basic
import SuggestionReview.Payload.Document
import SuggestionReview.Reference
import SuggestionReview.Suggestion.Load
import SuggestionReview.Row.Content
import SuggestionReview.Keys.Bindings
import SuggestionReview.Palette
import SuggestionReview.LogFile
import SuggestionReview.Environment
import SuggestionReview.Settings.Basic
import SuggestionReview.Viewer.Slot
import SuggestionReview.Editor.Document
import SuggestionReview.Review.Draw
import SuggestionReview.Main
import SuggestionReview.Proofs.Entries
import SuggestionReview.Proofs.Json.Success
import SuggestionReview.Proofs.Json.Value
import SuggestionReview.Proofs.Json.Verbatim
import SuggestionReview.Proofs.Json.Decode
import SuggestionReview.Proofs.Json.Kinds
import SuggestionReview.Proofs.Json.Numeral
import SuggestionReview.Proofs.Json.Literal
import SuggestionReview.Proofs.Json.RoundTrip
import SuggestionReview.Proofs.Payload.Decode
import SuggestionReview.Proofs.Payload.Readable
import SuggestionReview.Proofs.Payload.RoundTrip
import SuggestionReview.Proofs.Json.Yields
import SuggestionReview.Proofs.Suggestion.Readable
import SuggestionReview.Proofs.Suggestion.RoundTrip
import SuggestionReview.Proofs.Payload.Preserved
import SuggestionReview.Proofs.Payload.Merge
import SuggestionReview.Proofs.Payload.Effect
import SuggestionReview.Proofs.Payload.Options
import SuggestionReview.Proofs.Editor
import SuggestionReview.Proofs.Review.Rows
import SuggestionReview.Proofs.Review.Keyed
import SuggestionReview.Proofs.Review.Run
import SuggestionReview.Proofs.TextArea.Report
import SuggestionReview.Proofs.Review.Readable
import SuggestionReview.Proofs.Review.Saved
import SuggestionReview.Proofs.Row.Kept
import SuggestionReview.Proofs.Row.Measure
import SuggestionReview.Proofs.Row.Notices
import SuggestionReview.Proofs.Row.Look
import SuggestionReview.Proofs.Review.Operation
import SuggestionReview.Proofs.Review.Coherent
import SuggestionReview.Proofs.Review.Dismissal
import SuggestionReview.Proofs.Review.Cards
import SuggestionReview.Proofs.Review.Pending
import SuggestionReview.Proofs.Review.Modal
import SuggestionReview.Proofs.Review.Applying
import SuggestionReview.Proofs.Reference
import SuggestionReview.Proofs.Reference.Line
import SuggestionReview.Proofs.Row.History
import SuggestionReview.Proofs.Row.Operation
import SuggestionReview.Proofs.Row.Enabled
import SuggestionReview.Proofs.Feature
import SuggestionReview.Proofs.Row.Columns
import SuggestionReview.Proofs.Review.Carried
import SuggestionReview.Proofs.Review.Navigation
import SuggestionReview.Proofs.Keys.Bindings
import SuggestionReview.Proofs.Review.Leaving
import SuggestionReview.Proofs.Keys.Document
import SuggestionReview.Proofs.Keys.Dispatch
import SuggestionReview.Proofs.Keys.Warnings
import SuggestionReview.Proofs.Keys.Grammar
import SuggestionReview.Proofs.Keys.Characters
import SuggestionReview.Proofs.Review.Hints
import SuggestionReview.Proofs.Row.Controls
import SuggestionReview.Proofs.Viewer.Lifecycle
import SuggestionReview.Proofs.Row.Viewing
import SuggestionReview.Proofs.Row.Steady
import SuggestionReview.Proofs.Row.Independence
import SuggestionReview.Proofs.Row.UpToDate
import SuggestionReview.Proofs.Row.Circle
import SuggestionReview.Proofs.Row.Highlight
import SuggestionReview.Proofs.Row.Offered
import SuggestionReview.Proofs.Review.Placement
import SuggestionReview.Proofs.Review.Scrolling
import SuggestionReview.Proofs.Review.Busy
import SuggestionReview.Proofs.Text.Fill
import SuggestionReview.Proofs.Text.Plain
import SuggestionReview.Proofs.Text.LineBreak
import SuggestionReview.Proofs.Screen.Wrap
import SuggestionReview.Proofs.Screen.Paragraph
import SuggestionReview.Proofs.Row.Height
import SuggestionReview.Proofs.Screen.Untrimmed
import SuggestionReview.Proofs.Row.Fallback
