import Dramaturg.Application.Settings
import Dramaturg.Application.Toml.Bare
import Dramaturg.Application.Toml.Basic
import Dramaturg.Application.Toml.Quoted
import Dramaturg.Application.Toml.Reader
import Dramaturg.Chat.Failure
import Dramaturg.Chat.Message
import Dramaturg.Chat.Model
import Dramaturg.Chat.Request
import Dramaturg.Console.Arguments
import Dramaturg.Console.Commands
import Dramaturg.Console.Disk
import Dramaturg.Console.Identifiers
import Dramaturg.Console.MemoryDisk
import Dramaturg.Directive.Bundle
import Dramaturg.Directive.Cleanup
import Dramaturg.Directive.Rule
import Dramaturg.Fault
import Dramaturg.Json.Basic
import Dramaturg.Json.Literal
import Dramaturg.Json.Reader
import Dramaturg.Json.Writer
import Dramaturg.Lore.Activation
import Dramaturg.Lore.Card
import Dramaturg.Lore.Catalog
import Dramaturg.Lore.Entry
import Dramaturg.Main
import Dramaturg.Number.Binary
import Dramaturg.Number.Decimal
import Dramaturg.Number.Layout
import Dramaturg.Number.Power
import Dramaturg.Number.Shortest
import Dramaturg.Page
import Dramaturg.Prompt.Assembly
import Dramaturg.Prompt.History
import Dramaturg.Proofs.Chat.Retry
import Dramaturg.Proofs.Directive.Residue
import Dramaturg.Proofs.Directive.Seam
import Dramaturg.Proofs.Directive.Tidy
import Dramaturg.Proofs.Directive.Weave
import Dramaturg.Proofs.Lore.Chain
import Dramaturg.Proofs.Lore.Closure
import Dramaturg.Proofs.Lore.Growth
import Dramaturg.Proofs.Lore.Reading
import Dramaturg.Proofs.Lore.Trigger
import Dramaturg.Proofs.Number.Rounding
import Dramaturg.Proofs.Number.Single
import Dramaturg.Proofs.Number.Whole
import Dramaturg.Proofs.Page.Breaks
import Dramaturg.Proofs.Page.Cutting
import Dramaturg.Proofs.Page.Windows
import Dramaturg.Proofs.Prompt.Cursor
import Dramaturg.Proofs.Prompt.LoreOrder
import Dramaturg.Proofs.Prompt.Pages
import Dramaturg.Proofs.Prompt.Provenance
import Dramaturg.Proofs.Prompt.Room
import Dramaturg.Proofs.Prompt.Shape
import Dramaturg.Proofs.Prompt.Window
import Dramaturg.Proofs.Row
import Dramaturg.Proofs.Settings.Fieldwise
import Dramaturg.Proofs.Settings.Key
import Dramaturg.Proofs.Settings.Slot
import Dramaturg.Proofs.Stage.Announcement
import Dramaturg.Proofs.Stage.Channel
import Dramaturg.Proofs.Stage.Cue
import Dramaturg.Proofs.Stage.Direction
import Dramaturg.Proofs.Stage.Mirror
import Dramaturg.Proofs.Stage.Numbers
import Dramaturg.Proofs.Stage.Performance
import Dramaturg.Proofs.Stage.Restriction
import Dramaturg.Proofs.Stage.Roster
import Dramaturg.Proofs.Stage.Score
import Dramaturg.Proofs.Stage.Screen
import Dramaturg.Proofs.Story.Afresh
import Dramaturg.Proofs.Story.Listing
import Dramaturg.Proofs.Story.Shape
import Dramaturg.Proofs.Table.Lookup
import Dramaturg.Proofs.Text.Occurrence
import Dramaturg.Proofs.Text.Parting
import Dramaturg.Proofs.Turn.Accord
import Dramaturg.Proofs.Turn.Atomicity
import Dramaturg.Proofs.Turn.Attribution
import Dramaturg.Proofs.Turn.Casting
import Dramaturg.Proofs.Turn.Course
import Dramaturg.Proofs.Turn.Encore
import Dramaturg.Proofs.Turn.Hidden
import Dramaturg.Proofs.Turn.Identifier
import Dramaturg.Proofs.Turn.Interference
import Dramaturg.Proofs.Turn.Paragraph
import Dramaturg.Proofs.Turn.Recital
import Dramaturg.Proofs.Turn.Run
import Dramaturg.Proofs.Turn.Score
import Dramaturg.Proofs.Turn.Speech
import Dramaturg.Proofs.Turn.Splitting
import Dramaturg.Proofs.Wire
import Dramaturg.Random.Keystream
import Dramaturg.Random.Source
import Dramaturg.Scene.Command
import Dramaturg.Settings.Basic
import Dramaturg.Settings.Document
import Dramaturg.Stage.Act
import Dramaturg.Stage.Basic
import Dramaturg.Stage.Coordinate
import Dramaturg.Stage.Figures
import Dramaturg.Stage.Layout
import Dramaturg.Stage.Roster
import Dramaturg.Story.Basic
import Dramaturg.Story.Directory
import Dramaturg.Table.Figure
import Dramaturg.Table.Flat
import Dramaturg.Table.Scene
import Dramaturg.Table.Tables
import Dramaturg.Text.Blank
import Dramaturg.Text.CodeRange
import Dramaturg.Text.Extender
import Dramaturg.Text.Listed
import Dramaturg.Text.Search
import Dramaturg.Text.Unassigned
import Dramaturg.Transcript
import Dramaturg.Turn.Paragraph
import Dramaturg.Turn.Request
import Dramaturg.Turn.Runner
import Dramaturg.Turn.Session
import Dramaturg.Proofs.Directive.Leftmost
import Dramaturg.Proofs.Directive.Written
import Dramaturg.Proofs.Stage.Exact
import Dramaturg.Proofs.Stage.Geometry
import Dramaturg.Proofs.Stage.Settled
import Dramaturg.Proofs.Turn.Paging
