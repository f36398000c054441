import EditorAssist.Action
import EditorAssist.Backend.Collection
import EditorAssist.Backend.Provider
import EditorAssist.Backend.Registry
import EditorAssist.Backend.Station
import EditorAssist.Backend.Suggestion
import EditorAssist.Batch.Case
import EditorAssist.Batch.Language
import EditorAssist.Batch.Report
import EditorAssist.Batch.Run
import EditorAssist.Completion.Cursor
import EditorAssist.Completion.Edit
import EditorAssist.Datum
import EditorAssist.Debounce.Desk
import EditorAssist.Debounce.Script
import EditorAssist.Document
import EditorAssist.Fault
import EditorAssist.Files.Path
import EditorAssist.Files.Tree
import EditorAssist.Journal.Level
import EditorAssist.Journal.Record
import EditorAssist.Journal.Sink
import EditorAssist.Json.Parser
import EditorAssist.Json.Printer
import EditorAssist.Json.Value
import EditorAssist.Layout.Cells
import EditorAssist.Layout.Emoji
import EditorAssist.Layout.Markup
import EditorAssist.Layout.Panel
import EditorAssist.Layout.Parameters
import EditorAssist.Layout.Printout
import EditorAssist.Layout.Row
import EditorAssist.Layout.Sign
import EditorAssist.Layout.Style
import EditorAssist.Layout.Table
import EditorAssist.Layout.Wrap
import EditorAssist.Main
import EditorAssist.Number.Binary64
import EditorAssist.Number.Integer
import EditorAssist.Number.Shortest
import EditorAssist.Number.Total
import EditorAssist.Payload.Codec
import EditorAssist.Payload.Coercion
import EditorAssist.Payload.Mismatch
import EditorAssist.Payload.Types
import EditorAssist.Prompt
import EditorAssist.Proofs.Backend.Agreement
import EditorAssist.Proofs.Backend.Chat
import EditorAssist.Proofs.Backend.Collecting
import EditorAssist.Proofs.Backend.Courses
import EditorAssist.Proofs.Backend.Delegation
import EditorAssist.Proofs.Batch.Case
import EditorAssist.Proofs.Batch.Loading
import EditorAssist.Proofs.Completion.Acceptance
import EditorAssist.Proofs.Completion.Cursor
import EditorAssist.Proofs.Completion.Echo
import EditorAssist.Proofs.Completion.Insertion
import EditorAssist.Proofs.Completion.Overlap
import EditorAssist.Proofs.Debounce.Calls
import EditorAssist.Proofs.Debounce.Course
import EditorAssist.Proofs.Debounce.Desk
import EditorAssist.Proofs.Debounce.Fate
import EditorAssist.Proofs.Debounce.Independence
import EditorAssist.Proofs.Debounce.Operations
import EditorAssist.Proofs.Debounce.Trial
import EditorAssist.Proofs.Document
import EditorAssist.Proofs.Document.Edits
import EditorAssist.Proofs.Files.Directory
import EditorAssist.Proofs.Files.Order
import EditorAssist.Proofs.Files.Tree
import EditorAssist.Proofs.Journal.Lines
import EditorAssist.Proofs.Journal.Records
import EditorAssist.Proofs.Json.Contents
import EditorAssist.Proofs.Json.Encodable
import EditorAssist.Proofs.Json.Entries
import EditorAssist.Proofs.Json.Numbers
import EditorAssist.Proofs.Json.OneLine
import EditorAssist.Proofs.Json.Scalars
import EditorAssist.Proofs.Json.Strings
import EditorAssist.Proofs.Json.Values
import EditorAssist.Proofs.Number.Binary64
import EditorAssist.Proofs.Number.Decimal
import EditorAssist.Proofs.Number.Grouped
import EditorAssist.Proofs.Number.Total
import EditorAssist.Proofs.Payload.Laws
import EditorAssist.Proofs.Payload.Models
import EditorAssist.Proofs.Payload.Spelling
import EditorAssist.Proofs.Prompt.Fence
import EditorAssist.Proofs.Session.Answers
import EditorAssist.Proofs.Session.Aside
import EditorAssist.Proofs.Session.Asking
import EditorAssist.Proofs.Session.Bracketing
import EditorAssist.Proofs.Session.Clearing
import EditorAssist.Proofs.Session.Commanding
import EditorAssist.Proofs.Session.Completing
import EditorAssist.Proofs.Session.Doing
import EditorAssist.Proofs.Session.Draining
import EditorAssist.Proofs.Session.Events
import EditorAssist.Proofs.Session.Executing
import EditorAssist.Proofs.Session.Expecting
import EditorAssist.Proofs.Session.Fuel
import EditorAssist.Proofs.Session.Handling
import EditorAssist.Proofs.Session.Jobs
import EditorAssist.Proofs.Session.Keeping
import EditorAssist.Proofs.Session.Lamps
import EditorAssist.Proofs.Session.Ledger
import EditorAssist.Proofs.Session.Notifications
import EditorAssist.Proofs.Session.Offering
import EditorAssist.Proofs.Session.Outlay
import EditorAssist.Proofs.Session.Reaching
import EditorAssist.Proofs.Session.Remaining
import EditorAssist.Proofs.Session.Replacing
import EditorAssist.Proofs.Session.Running
import EditorAssist.Proofs.Session.Showing
import EditorAssist.Proofs.Session.Signalling
import EditorAssist.Proofs.Session.Sound
import EditorAssist.Proofs.Session.Spinning
import EditorAssist.Proofs.Session.Stopping
import EditorAssist.Proofs.Session.Strokes
import EditorAssist.Proofs.Session.Syncing
import EditorAssist.Proofs.Session.Ticking
import EditorAssist.Proofs.Session.Tokens
import EditorAssist.Proofs.Session.Turn
import EditorAssist.Proofs.Session.Turning
import EditorAssist.Proofs.Session.Versions
import EditorAssist.Proofs.Session.Waiting
import EditorAssist.Proofs.Settings
import EditorAssist.Proofs.Settings.Confinement
import EditorAssist.Proofs.Settings.Documents
import EditorAssist.Proofs.Settings.Expansion
import EditorAssist.Proofs.Settings.Fields
import EditorAssist.Proofs.Settings.Layers
import EditorAssist.Proofs.Settings.Merging
import EditorAssist.Proofs.Settings.Parts
import EditorAssist.Proofs.Settings.References
import EditorAssist.Proofs.Settings.Resolution
import EditorAssist.Proofs.Settings.Startup
import EditorAssist.Proofs.Settings.Tokens
import EditorAssist.Proofs.Settings.Tolerance
import EditorAssist.Proofs.Text.Indent
import EditorAssist.Proofs.Text.Lines
import EditorAssist.Proofs.Text.Search
import EditorAssist.Proofs.Text.Trim
import EditorAssist.Proofs.Text.Utf8
import EditorAssist.Proofs.Text.Walk
import EditorAssist.Proofs.Time.Agenda
import EditorAssist.Proofs.Time.Engine
import EditorAssist.Proofs.Time.Path
import EditorAssist.Proofs.Wire.Announcing
import EditorAssist.Proofs.Wire.Blocks
import EditorAssist.Proofs.Wire.Bodies
import EditorAssist.Proofs.Wire.Frames
import EditorAssist.Proofs.Wire.Header
import EditorAssist.Proofs.Wire.Messages
import EditorAssist.Proofs.Wire.Safety
import EditorAssist.Proofs.Wire.Writing
import EditorAssist.Session.Commanding
import EditorAssist.Session.Completing
import EditorAssist.Session.Dispatch
import EditorAssist.Session.Outbound
import EditorAssist.Session.Progress
import EditorAssist.Session.Run
import EditorAssist.Session.Sending
import EditorAssist.Session.State
import EditorAssist.Settings.Backends
import EditorAssist.Settings.Basic
import EditorAssist.Settings.Commented
import EditorAssist.Settings.Environment
import EditorAssist.Settings.Field
import EditorAssist.Settings.Layer
import EditorAssist.Settings.Load
import EditorAssist.Terminal.Arguments
import EditorAssist.Terminal.Invocation
import EditorAssist.Terminal.Run
import EditorAssist.Text.Blank
import EditorAssist.Text.CaseContext
import EditorAssist.Text.CharacterName
import EditorAssist.Text.Indent
import EditorAssist.Text.Lines
import EditorAssist.Text.Literal
import EditorAssist.Text.LowerCase
import EditorAssist.Text.NameTable
import EditorAssist.Text.Printable
import EditorAssist.Text.Quoted
import EditorAssist.Text.Search
import EditorAssist.Text.Units
import EditorAssist.Text.UpperCase
import EditorAssist.Text.Utf8
import EditorAssist.Text.WordChar
import EditorAssist.Time.Agenda
import EditorAssist.Time.Instant
import EditorAssist.Time.Timestamp
import EditorAssist.Wire.Frame
import EditorAssist.Wire.Message
import EditorAssist.Wire.Model
