import Registrar.Batch
import Registrar.Binding
import Registrar.Caller
import Registrar.Comparison
import Registrar.Department
import Registrar.Desk
import Registrar.Desk.Change
import Registrar.Desk.History
import Registrar.Desk.Listing
import Registrar.Entries
import Registrar.Error
import Registrar.Export
import Registrar.Filter
import Registrar.Filter.Data
import Registrar.Filter.Request
import Registrar.Freeform
import Registrar.Identifier
import Registrar.Instant
import Registrar.Json.Printer
import Registrar.Json.Reader
import Registrar.Json.Record
import Registrar.Json.Value
import Registrar.Kind
import Registrar.Memory
import Registrar.Number.Digits
import Registrar.Number.Double
import Registrar.Number.Notation
import Registrar.Number.Numeral
import Registrar.Number.Shortest
import Registrar.Outcome
import Registrar.Page
import Registrar.Page.Data
import Registrar.Params
import Registrar.Pattern.Bracket
import Registrar.Pattern.CharSet
import Registrar.Pattern.Escape
import Registrar.Pattern.Memory
import Registrar.Pattern.Moves
import Registrar.Pattern.Places
import Registrar.Pattern.Property
import Registrar.Pattern.Reader
import Registrar.Pattern.Shape
import Registrar.Pattern.Tree
import Registrar.Pattern.Whole
import Registrar.Proofs.Batch.Counts
import Registrar.Proofs.Desk.Available
import Registrar.Proofs.Desk.Batch
import Registrar.Proofs.Desk.Bound
import Registrar.Proofs.Desk.Comparisons
import Registrar.Proofs.Desk.Course
import Registrar.Proofs.Desk.Deeds
import Registrar.Proofs.Desk.Entry
import Registrar.Proofs.Desk.Founded
import Registrar.Proofs.Desk.Groups
import Registrar.Proofs.Desk.Guard
import Registrar.Proofs.Desk.Items
import Registrar.Proofs.Desk.Journal
import Registrar.Proofs.Desk.Lasting
import Registrar.Proofs.Desk.Naming
import Registrar.Proofs.Desk.Orderly
import Registrar.Proofs.Desk.Outlook
import Registrar.Proofs.Desk.Reads
import Registrar.Proofs.Desk.Removal
import Registrar.Proofs.Desk.Run
import Registrar.Proofs.Desk.Single
import Registrar.Proofs.Desk.Solitary
import Registrar.Proofs.Desk.Taken
import Registrar.Proofs.Desk.Trails
import Registrar.Proofs.Desk.Twins
import Registrar.Proofs.Desk.Unique
import Registrar.Proofs.Desk.Versions
import Registrar.Proofs.Desk.Viewing
import Registrar.Proofs.Distinct
import Registrar.Proofs.Entries
import Registrar.Proofs.Export.Reading
import Registrar.Proofs.Filter.Integers
import Registrar.Proofs.Filter.Parameters
import Registrar.Proofs.Filter.Searches
import Registrar.Proofs.Identifier.Lists
import Registrar.Proofs.Identifier.Numeric
import Registrar.Proofs.Instant.Calendar
import Registrar.Proofs.Instant.Clock
import Registrar.Proofs.Kind.Faithful
import Registrar.Proofs.Kind.Lawful
import Registrar.Proofs.Kind.Overlay
import Registrar.Proofs.Kind.Readable
import Registrar.Proofs.Kind.Versioned
import Registrar.Proofs.Memory.Mirror
import Registrar.Proofs.Memory.Tables
import Registrar.Proofs.Number.Decimal
import Registrar.Proofs.Number.Rounding
import Registrar.Proofs.Number.Whole
import Registrar.Proofs.Page.Bounds
import Registrar.Proofs.Page.Slices
import Registrar.Proofs.Pattern.Closing
import Registrar.Proofs.Pattern.Depth
import Registrar.Proofs.Pattern.Frame
import Registrar.Proofs.Pattern.Rest
import Registrar.Proofs.Pattern.Spans
import Registrar.Proofs.Row.Order
import Registrar.Proofs.Rules.Declared
import Registrar.Proofs.Rules.Kept
import Registrar.Proofs.Rules.Remembered
import Registrar.Proofs.Sorting.Insertion
import Registrar.Proofs.Sorting.Meeting
import Registrar.Proofs.Sorting.Merging
import Registrar.Proofs.Sorting.Order
import Registrar.Proofs.Sorting.Runs
import Registrar.Proofs.Sorting.Stable
import Registrar.Proofs.Store.Contents
import Registrar.Proofs.Store.Copies
import Registrar.Proofs.Store.Founded
import Registrar.Proofs.Store.Recorded
import Registrar.Proofs.Store.Return
import Registrar.Proofs.Store.Run
import Registrar.Proofs.Store.Seniority
import Registrar.Proofs.Store.Step
import Registrar.Proofs.Store.Trail
import Registrar.Proofs.Token.Recent
import Registrar.Proofs.Web.Accounts
import Registrar.Proofs.Web.Additions
import Registrar.Proofs.Web.Available
import Registrar.Proofs.Web.Batches
import Registrar.Proofs.Web.Callers
import Registrar.Proofs.Web.Comparisons
import Registrar.Proofs.Web.Disclosure
import Registrar.Proofs.Web.Forest
import Registrar.Proofs.Web.Founded
import Registrar.Proofs.Web.Legible
import Registrar.Proofs.Web.Levels
import Registrar.Proofs.Web.Members
import Registrar.Proofs.Web.Naming
import Registrar.Proofs.Web.Orderly
import Registrar.Proofs.Web.Posts
import Registrar.Proofs.Web.Reserved
import Registrar.Proofs.Web.Scopes
import Registrar.Proofs.Web.Seeding
import Registrar.Proofs.Web.Taken
import Registrar.Proofs.Web.Turns
import Registrar.Proofs.Web.Versions
import Registrar.Proofs.Web.Viewing
import Registrar.Proofs.Web.Views
import Registrar.Revision
import Registrar.Role
import Registrar.Row
import Registrar.Rules
import Registrar.Rules.Cache
import Registrar.Rules.Check
import Registrar.Rules.Data
import Registrar.Schema
import Registrar.Schema.Data
import Registrar.Seed
import Registrar.Settings
import Registrar.Settings.Source
import Registrar.Settings.Tree
import Registrar.Sorting
import Registrar.Sorting.Runs
import Registrar.Sorting.Small
import Registrar.Store
import Registrar.Tally
import Registrar.Text.Age
import Registrar.Text.Blank
import Registrar.Text.Casing
import Registrar.Text.Category
import Registrar.Text.Folding
import Registrar.Text.Letter
import Registrar.Text.Lower
import Registrar.Text.Pieces
import Registrar.Text.Ranges
import Registrar.Text.Script
import Registrar.Text.Segment
import Registrar.Text.Trait
import Registrar.Text.Utf8
import Registrar.TokenGuard
import Registrar.User
import Registrar.User.State
import Registrar.Web.Endpoint
import Registrar.Web.Form
import Registrar.Web.Request
import Registrar.Web.Response
import Registrar.Web.Service
