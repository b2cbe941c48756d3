import Storyboard.Address.Basic
import Storyboard.Address.Escape
import Storyboard.Address.Fault
import Storyboard.Address.Numeric
import Storyboard.Address.Parts
import Storyboard.Canvas
import Storyboard.Checking.Checked
import Storyboard.Checking.Document
import Storyboard.Checking.Issue
import Storyboard.Checking.Numeral
import Storyboard.Checking.Reader
import Storyboard.Checking.Report
import Storyboard.Decimal.Exact
import Storyboard.Decimal.Fault
import Storyboard.Decimal.Layout
import Storyboard.Decimal.Numeral
import Storyboard.Decimal.Places
import Storyboard.Decimal.Shortest
import Storyboard.Decimal.Whole
import Storyboard.Domain.Alphabet
import Storyboard.Domain.Basic
import Storyboard.Domain.Composed
import Storyboard.Domain.Context
import Storyboard.Domain.Direction
import Storyboard.Domain.Punycode
import Storyboard.Environment.Basic
import Storyboard.Environment.File
import Storyboard.Failure.Basic
import Storyboard.Failure.Notice
import Storyboard.Fence
import Storyboard.Host
import Storyboard.Job.Artifact
import Storyboard.Job.Attempt
import Storyboard.Job.Generation
import Storyboard.Job.Key
import Storyboard.Job.Location
import Storyboard.Job.Phase
import Storyboard.Job.Request
import Storyboard.Job.Store
import Storyboard.Json.Argument
import Storyboard.Json.Basic
import Storyboard.Json.Compact
import Storyboard.Json.Display
import Storyboard.Json.Fault
import Storyboard.Json.Literal
import Storyboard.Json.Reader
import Storyboard.Json.Strict
import Storyboard.Keyed
import Storyboard.Log
import Storyboard.Model.Client
import Storyboard.Model.Exchange
import Storyboard.Model.Gemini
import Storyboard.Model.OpenRouter
import Storyboard.Model.Retry
import Storyboard.Moment.Basic
import Storyboard.Moment.Clock
import Storyboard.Moment.Date
import Storyboard.Moment.Stamp
import Storyboard.Narration
import Storyboard.Prompt.Catalog
import Storyboard.Prompt.Example
import Storyboard.Prompt.Section
import Storyboard.Prompt.System
import Storyboard.Prompt.User
import Storyboard.Prompt.Words
import Storyboard.Record
import Storyboard.Review.Basic
import Storyboard.Review.Bracket
import Storyboard.Review.Denylist
import Storyboard.Review.Shape
import Storyboard.Review.Signature
import Storyboard.Review.Tag
import Storyboard.Review.Verdict
import Storyboard.Script.Basic
import Storyboard.Script.Body
import Storyboard.Script.Check
import Storyboard.Server
import Storyboard.Settings.Basic
import Storyboard.Settings.Provider
import Storyboard.Settings.Source
import Storyboard.Studio
import Storyboard.Template
import Storyboard.Text.Base64
import Storyboard.Text.Blank
import Storyboard.Text.Caseless
import Storyboard.Text.Decoding
import Storyboard.Text.Digit
import Storyboard.Text.Encoding
import Storyboard.Text.Half
import Storyboard.Text.Hex
import Storyboard.Text.Lines
import Storyboard.Text.LowerCase
import Storyboard.Text.Mark
import Storyboard.Text.Pattern
import Storyboard.Text.Pieces
import Storyboard.Text.Printable
import Storyboard.Text.Quoted
import Storyboard.Text.Ranges
import Storyboard.Text.Search
import Storyboard.Text.Units
import Storyboard.Text.Utf8
import Storyboard.Text.WordChar
import Storyboard.Timeline
import Storyboard.Tool.Basic
import Storyboard.Tool.Catalog
import Storyboard.Tracing
import Storyboard.Proofs.Attempts
import Storyboard.Proofs.Checks
import Storyboard.Proofs.Numerals
import Storyboard.Proofs.Printing
import Storyboard.Proofs.Scanning
import Storyboard.Proofs.Moments
import Storyboard.Proofs.Keeping
import Storyboard.Proofs.Course
import Storyboard.Proofs.Quotes
import Storyboard.Proofs.Asking
import Storyboard.Proofs.Delivery
import Storyboard.Proofs.Holdings
import Storyboard.Proofs.Provenance
import Storyboard.Proofs.Recording
import Storyboard.Proofs.Replies
import Storyboard.Proofs.Outline
import Storyboard.Proofs.Calls
import Storyboard.Proofs.Feedback
import Storyboard.Proofs.Marks
import Storyboard.Proofs.Tiling
import Storyboard.Proofs.Staging
import Storyboard.Proofs.Barriers
import Storyboard.Proofs.Framing
import Storyboard.Proofs.Verdicts
import Storyboard.Proofs.Slots
import Storyboard.Proofs.Filling
import Storyboard.Proofs.Credentials
import Storyboard.Proofs.Likeness
import Storyboard.Proofs.Sharing
import Storyboard.Proofs.Interleaving
import Storyboard.Proofs.Reloading
import Storyboard.Proofs.Scripts
import Storyboard.Proofs.Constructs
import Storyboard.Proofs.Doubles
import Storyboard.Proofs.Fences
import Storyboard.Proofs.Resending
import Storyboard.Proofs.Brackets
import Storyboard.Proofs.Tags
import Storyboard.Proofs.Merging
import Storyboard.Proofs.Remembering
import Storyboard.Proofs.Mentions
import Storyboard.Proofs.Complaints
import Storyboard.Proofs.Rejections
import Storyboard.Proofs.Construction
import Storyboard.Proofs.Assignments
import Storyboard.Proofs.Arguments
import Storyboard.Proofs.Magnitudes
import Storyboard.Proofs.Pausing
import Storyboard.Proofs.Highlights
import Storyboard.Proofs.Payloads
